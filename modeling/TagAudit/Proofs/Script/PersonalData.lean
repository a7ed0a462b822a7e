import TagAudit.Proofs.Script.Arguments
import TagAudit.Proofs.Script.Scan

/-!
# Personal data in the addresses of requests

An address that is put together from a text and a suggestive identifier is seen for what it is. An
address that interpolates the same identifier is not: the identifier stands within quotation marks
there and is dropped with the passage. Then only what the text of the address shows by itself
counts, and what else the script sends.
-/

namespace TagAudit

namespace Text

namespace CodePointSet

/-- The points between each flip into a bounded set and the flip out of it. -/
def members : List Nat → List Nat
  | entry :: exit :: flips => List.range' entry (exit - entry) ++ members flips
  | _ => []

theorem mem_members {n : Nat} {flips : List Nat} (hbounded : flips.length % 2 = 0)
    (h : insideAfter false n flips = true) : n ∈ members flips := by
  induction flips using members.induct with
  | case1 entry exit flips ih =>
    simp only [insideAfter] at h
    rw [members, List.mem_append, List.mem_range'_1]
    split at h
    · cases h
    · split at h
      next hentry hexit => exact .inl (by omega)
      next =>
        rw [List.length_cons, List.length_cons] at hbounded
        exact .inr (ih (by omega) h)
  | case2 flips hfew =>
    cases flips with
    | nil => cases h
    | cons entry flips =>
      cases flips with
      | nil => cases hbounded
      | cons exit flips => exact absurd rfl (hfew entry exit flips)

end CodePointSet

/-- No blank is part of a word. -/
theorem isWord_of_isBlank {c : Char} (h : isBlank c = true) : isWord c = false := by
  have hpoints : ∀ n ∈ CodePointSet.members blanks.flips,
      n ≠ '_'.toNat ∧ CodePointSet.insideAfter false n lettersAndNumerals.flips = false := by
    decide +kernel
  obtain ⟨hunderscore, hletter⟩ := hpoints _ (CodePointSet.mem_members (by decide) h)
  have hc : (c == '_') = false := by
    rw [beq_eq_false_iff_ne]
    rintro rfl
    exact hunderscore rfl
  rw [isWord, hc, CodePointSet.contains, hletter, Bool.or_self]

theorem ne_of_isWord {c d : Char} (hc : isWord c = true) (hd : isWord d = false) : c ≠ d := by
  rintro rfl
  rw [hc] at hd
  cases hd

end Text

namespace Script

open Pattern

/-- A plain text and an identifier that speaks of personal data, of which an address is made that
has white space around it. -/
structure PersonalAddress where
  plain : List Char
  identifier : List Char
  before : List Char
  after : List Char
  unquoted : plain.any isQuote = false
  unmarked : '\\' ∉ plain ∧ '$' ∉ plain ∧ '\n' ∉ plain
  wordlike : identifier.all Text.isWord = true
  suggestive : ∃ name ∈ ["email", "mail", "phone", "mobile"],
    name.toList <:+: identifier.map Text.fold
  blankBefore : Text.isBlankText before = true
  blankAfter : Text.isBlankText after = true

/-- How the address is made of the text and the identifier. -/
inductive Spelling
  | concatenated
  | interpolated

namespace PersonalAddress

variable (address : PersonalAddress)

/-- The text with the identifier in braces after it. -/
def interior : List Char :=
  address.plain ++ ('$' :: '\x7b' :: (address.identifier ++ ['\x7d']))

/-- The expression for the address. -/
def expression : Spelling → List Char
  | .concatenated => '\'' :: (address.plain ++ '\'' :: ([' ', '+', ' '] ++ address.identifier))
  | .interpolated => '`' :: (address.interior ++ ['`'])

end PersonalAddress

section Passages

variable {quote : Char} {body rest : List Char}

/-- A passage without backslashes ends at its quotation mark. -/
theorem afterPassage?_append (hquote : quote ≠ '\\')
    (h : ∀ c ∈ body, c ≠ quote ∧ c ≠ '\\' ∧ c ≠ '\n') :
    afterPassage? quote (body ++ quote :: rest) = some rest := by
  induction body with
  | nil =>
    rw [List.nil_append, afterPassage?, if_pos rfl]
    exact fun d => hquote d
  | cons c body ih =>
    obtain ⟨⟨hc, hbackslash, hline⟩, hbody⟩ := List.forall_mem_cons.mp h
    rw [List.cons_append, afterPassage?, if_neg hc, if_neg hline, ih hbody]
    exact fun d => hbackslash d

/-- A passage is replaced by an empty string. -/
theorem withoutPassages_passage (hquote : isQuote quote = true)
    (h : ∀ c ∈ body, c ≠ quote ∧ c ≠ '\\' ∧ c ≠ '\n') :
    withoutPassages (quote :: (body ++ quote :: rest)) = '"' :: '"' :: withoutPassages rest := by
  have hafter : afterPassage? quote (body ++ quote :: rest) = some rest :=
    afterPassage?_append (ne_backslash_of_isQuote hquote) h
  have hlength : rest.length ≤ (body ++ quote :: rest).length := by
    rw [List.length_append, List.length_cons]
    omega
  rw [withoutPassages, if_pos hquote, hafter]
  exact if_pos hlength

theorem withoutPassages_plain (h : body.any isQuote = false) : withoutPassages body = body := by
  induction body with
  | nil => rw [withoutPassages]
  | cons c body ih =>
    obtain ⟨hc, hbody⟩ := Bool.or_eq_false_iff.mp h
    rw [withoutPassages, hc]
    exact congrArg _ (ih hbody)

end Passages

/-- A suggestive name is found where its word begins. -/
theorem personalName_occursIn {passed word : List Char} (hstart : passed.getLast? = some ' ')
    (hword : word.all Text.isWord = true)
    (hname : ∃ name ∈ ["email", "mail", "phone", "mobile"],
      name.toList <:+: word.map Text.fold) :
    personalName.occursIn (passed ++ word) = true := by
  obtain ⟨name, hmem, front, back, hsplit⟩ := hname
  obtain ⟨first, later, rfl, hfirst, hlater⟩ := List.map_eq_append_iff.mp hsplit.symm
  obtain ⟨lead, middle, rfl, hlead, hmiddle⟩ := List.map_eq_append_iff.mp hfirst
  have hspelled : List.Forall₂ (fun key c => (Text.fold c == key) = true) name.toList middle := by
    rw [← hmiddle, List.forall₂_map_left_iff]
    exact List.forall₂_same.mpr fun c _ => beq_self_eq_true _
  have hleading : ∀ c ∈ lead, isNameChar c = true := by
    intro c hc
    simp [isNameChar, List.all_eq_true.mp hword c (by simp [hc])]
  have hedge : Cursor.mk passed.reverse (lead ++ (middle ++ later)) [] ∈
      (notAfter fun c => c == '\'' || c == '"' || isNameChar c).ways
        ⟨passed.reverse, lead ++ (middle ++ later), []⟩ := by
    have hblank : isNameChar ' ' = false := by decide
    simp [ways, Cursor.previousIs, hstart, hblank]
  have hrun : Cursor.mk (lead.reverse ++ passed.reverse) (middle ++ later) [] ∈
      (run isNameChar 0).ways ⟨passed.reverse, lead ++ (middle ++ later), []⟩ :=
    List.mem_map.mpr ⟨(lead.reverse ++ passed.reverse, middle ++ later),
      mem_runWays.mpr ⟨lead, rfl, rfl, Nat.zero_le _, hleading⟩, rfl⟩
  have hspell : Cursor.mk (middle.reverse ++ (lead.reverse ++ passed.reverse)) later [] ∈
      (anyCase name).ways ⟨lead.reverse ++ passed.reverse, middle ++ later, []⟩ := by
    rw [anyCase, ways_all_map_char hspelled]
    exact List.mem_singleton_self _
  have hpattern : anyCase name ∈ ["email", "mail", "phone", "mobile"].map anyCase :=
    List.mem_map_of_mem hmem
  have hany := mem_ways_any hpattern hspell
  rw [List.append_assoc]
  exact occursIn_of_holdsAt (holdsAt_of_mem_ways
    (mem_ways_seq hedge (mem_ways_seq hrun (mem_ways_seq hany (List.mem_singleton_self _)))))

/-- Does the expression show personal data without a name outside quoted passages? -/
def showsLiterally (expression : List Char) : Bool :=
  emailLiteral.occursIn expression || phoneLiteral.occursIn expression ||
    personalQueryKey.occursIn expression

namespace PersonalAddress

variable (address : PersonalAddress)

theorem ne_of_mem_plain {c quote : Char} (hquote : isQuote quote = true)
    (hc : c ∈ address.plain) : c ≠ quote ∧ c ≠ '\\' ∧ c ≠ '\n' := by
  obtain ⟨hbackslash, -, hline⟩ := address.unmarked
  refine ⟨?_, ne_of_mem_of_not_mem hc hbackslash, ne_of_mem_of_not_mem hc hline⟩
  rintro rfl
  exact List.any_eq_false.mp address.unquoted c hc hquote

theorem ne_of_mem_interior {c : Char} (hc : c ∈ address.interior) :
    c ≠ '`' ∧ c ≠ '\\' ∧ c ≠ '\n' := by
  simp only [interior, List.mem_append, List.mem_cons, List.not_mem_nil, or_false] at hc
  rcases hc with hc | rfl | rfl | hc | rfl
  · exact address.ne_of_mem_plain rfl hc
  · decide
  · decide
  · have hword := List.all_eq_true.mp address.wordlike c hc
    exact ⟨Text.ne_of_isWord hword (by decide), Text.ne_of_isWord hword (by decide),
      Text.ne_of_isWord hword (by decide)⟩
  · decide

/-- The identifier is seen after the text. -/
theorem showsPersonalData_concatenated :
    showsPersonalData (address.expression .concatenated) = true := by
  have hcode : ([' ', '+', ' '] ++ address.identifier).any isQuote = false := by
    rw [List.any_append, Bool.or_eq_false_iff]
    refine ⟨rfl, List.any_eq_false.mpr fun c hc => ?_⟩
    have hword := List.all_eq_true.mp address.wordlike c hc
    simp [isQuote, Text.ne_of_isWord hword (d := '\'') (by decide),
      Text.ne_of_isWord hword (d := '"') (by decide),
      Text.ne_of_isWord hword (d := '`') (by decide)]
  have hpassages : withoutPassages (address.expression .concatenated) =
      ['"', '"', ' ', '+', ' '] ++ address.identifier := by
    rw [expression, withoutPassages_passage rfl fun c hc => address.ne_of_mem_plain rfl hc,
      withoutPassages_plain hcode]
    rfl
  rw [showsPersonalData, hpassages,
    personalName_occursIn rfl address.wordlike address.suggestive, Bool.or_true]

/-- The identifier is dropped with the passage. -/
theorem showsPersonalData_interpolated :
    showsPersonalData (address.expression .interpolated) =
      showsLiterally (address.expression .interpolated) := by
  have hpassages : withoutPassages (address.expression .interpolated) = ['"', '"'] := by
    rw [expression, withoutPassages_passage rfl fun c hc => address.ne_of_mem_interior hc,
      withoutPassages]
  have hnothing : personalName.occursIn ['"', '"'] = false := by decide
  rw [showsPersonalData, hpassages, hnothing, Bool.or_false, showsLiterally]

theorem identifier_ne_nil : address.identifier ≠ [] := by
  obtain ⟨name, hname, hwithin⟩ := address.suggestive
  intro hnil
  rw [hnil, List.map_nil, List.infix_nil] at hwithin
  have hnames : ∀ name ∈ ["email", "mail", "phone", "mobile"], name.toList ≠ [] := by decide
  exact hnames name hname hwithin

theorem balanced_expression (spelling : Spelling) :
    Balanced false (address.expression spelling) := by
  cases spelling with
  | concatenated =>
    refine .string rfl (.of_forall fun c hc => ?_) (.append ?_ ?_)
    · obtain ⟨hquote, hbackslash, -⟩ := address.ne_of_mem_plain (by rfl : isQuote '\'' = true) hc
      exact ⟨hquote, hbackslash⟩
    · exact balanced_of_class (fun c => c == ' ' || c == '+') rfl rfl
    · exact balanced_of_class Text.isWord (by decide) address.wordlike
  | interpolated =>
    refine .string rfl (.of_forall fun c hc => ?_) .nil
    obtain ⟨hquote, hbackslash, -⟩ := address.ne_of_mem_interior hc
    exact ⟨hquote, hbackslash⟩

theorem strip_expression (spelling : Spelling) :
    Text.strip (address.expression spelling) = address.expression spelling := by
  cases spelling with
  | concatenated =>
    obtain ⟨front, last, hsplit⟩ :=
      (List.eq_nil_or_concat address.identifier).resolve_left address.identifier_ne_nil
    have hlast : Text.isBlank last = false := by
      have hword := List.all_eq_true.mp address.wordlike last (by simp [hsplit])
      rw [Bool.eq_false_iff]
      intro hblank
      rw [Text.isWord_of_isBlank hblank] at hword
      cases hword
    have hends := Text.strip_of_ends (by decide : Text.isBlank '\'' = false) hlast
      (address.plain ++ '\'' :: ([' ', '+', ' '] ++ front))
    rw [expression, hsplit]
    simpa using hends
  | interpolated => exact Text.strip_of_ends (by decide) (by decide) address.interior

/-- The address as an argument of a call. -/
def argument (spelling : Spelling) : Argument where
  text := address.expression spelling
  before := address.before
  after := address.after
  balanced := address.balanced_expression spelling
  nonempty := by cases spelling <;> exact List.cons_ne_nil _ _
  trimmed := address.strip_expression spelling
  blankBefore := address.blankBefore
  blankAfter := address.blankAfter

end PersonalAddress

/-- The functions that send requests, as the rule looks for them. -/
inductive Sender
  | fetch
  | beacon
  | opened
  deriving DecidableEq

namespace Sender

/-- The name of the function in a call. -/
def pattern : Sender → Pattern
  | fetch => named "fetch"
  | beacon => namedMember "sendBeacon"
  | opened => memberOf "open"

/-- The argument of a call that is the address. -/
def address? : Sender → List (List Char) → Option (List Char)
  | fetch, arguments | beacon, arguments => arguments.head?
  | opened, arguments => arguments[1]?.or arguments.head?

end Sender

/-- The addresses of a script are those of the calls of each sender, and the assigned sources. -/
theorem mem_outboundUrls {script url : List Char} : url ∈ outboundUrls script ↔
    (∃ sender : Sender, url ∈ (callArguments sender.pattern script).filterMap sender.address?) ∨
      url ∈ (sourceAssignment.findAll script).map (·.stop.captured) := by
  simp only [outboundUrls, List.mem_append]
  constructor
  · rintro (((h | h) | h) | h)
    · exact .inl ⟨.fetch, h⟩
    · exact .inl ⟨.beacon, h⟩
    · exact .inl ⟨.opened, h⟩
    · exact .inr h
  · rintro (⟨sender, h⟩ | h)
    · cases sender with
      | fetch => exact .inl (.inl (.inl h))
      | beacon => exact .inl (.inl (.inr h))
      | opened => exact .inl (.inr h)
    · exact .inr h

/-- A call that sends a request, but for its address and what follows the call. -/
inductive Request
  | fetch (options : List Argument)
  | sendBeacon (data : List Argument)
  | navigatorBeacon (data : List Argument)
  | opened (method : Argument) (more : List Argument)

namespace Request

/-- The function that is called. -/
def sender : Request → Sender
  | fetch _ => .fetch
  | sendBeacon _ | navigatorBeacon _ => .beacon
  | opened .. => .opened

/-- The call up to its opening parenthesis. -/
def opening : Request → String
  | fetch _ => "fetch("
  | sendBeacon _ => "sendBeacon("
  | navigatorBeacon _ => "navigator.sendBeacon("
  | opened .. => "xhr.open("

/-- The arguments of the call. -/
def arguments : Request → Argument → List Argument
  | fetch more, address | sendBeacon more, address | navigatorBeacon more, address =>
    address :: more
  | opened method more, address => method :: address :: more

variable (request : Request) (address : Argument) (rest : List Char)

/-- The script after the opening parenthesis of the call. -/
def inside : List Char :=
  [','].intercalate ((request.arguments address).map Argument.written) ++ ')' :: rest

/-- A script that begins with the call. -/
def script : List Char := request.opening.toList ++ request.inside address rest

/-- The call is read first, and then the script after its opening parenthesis. -/
theorem callArguments_opening (sender : Sender) (left : List Char) :
    callArguments sender.pattern (request.opening.toList ++ left) =
      (if sender = request.sender then (arguments? left).toList else []) ++
        callArguments sender.pattern left := by
  cases request <;> cases sender <;> dsimp only [opening, Sender.pattern]
  case fetch.fetch | sendBeacon.beacon | navigatorBeacon.beacon | opened.opened =>
    exact callArguments_of_endAt? rfl rfl rfl
  all_goals exact callArguments_of_passesOver rfl rfl rfl

/-- No source is assigned up to the opening parenthesis. -/
theorem sources_opening (left : List Char) :
    (sourceAssignment.findAll (request.opening.toList ++ left)).map (·.stop.captured) =
      (sourceAssignment.findAll left).map (·.stop.captured) := by
  have hpasses : sourceAssignment.findAll (request.opening.toList ++ left) =
      (sourceAssignment.findAll left).map (·.within request.opening.toList.reverse) := by
    cases request <;> dsimp only [opening] <;>
      exact findAll_of_passesOver rfl (by decide) rfl rfl
  rw [hpasses, List.map_map]
  rfl

/-- The script sends a request to the address, and what else it does after the parenthesis. -/
theorem mem_outboundUrls_script (url : List Char) :
    url ∈ outboundUrls (request.script address rest) ↔
      url = address.text ∨ url ∈ outboundUrls (request.inside address rest) := by
  have hread : request.sender.address? ((request.arguments address).map Argument.text) =
      some address.text := by
    cases request <;> rfl
  have hown : (∃ sender : Sender, url ∈ (if sender = request.sender then
        (arguments? (request.inside address rest)).toList else []).filterMap sender.address?) ↔
      url = address.text := by
    rw [inside, arguments?_written, Option.toList_some]
    constructor
    · rintro ⟨sender, hurl⟩
      split at hurl
      next hsender =>
        subst hsender
        simpa [hread] using hurl
      next => cases hurl
    · rintro rfl
      exact ⟨request.sender, by simp [hread]⟩
  rw [mem_outboundUrls, mem_outboundUrls, script, sources_opening]
  simp only [callArguments_opening, List.filterMap_append, List.mem_append, exists_or]
  rw [hown, or_assoc]

theorem callArguments_timer {timer : String} (htimer : timer ∈ ["setInterval", "setTimeout"])
    (left : List Char) : callArguments (named timer) (request.opening.toList ++ left) =
      callArguments (named timer) left := by
  rcases List.mem_pair.mp htimer with rfl | rfl <;> cases request <;> dsimp only [opening] <;>
    exact callArguments_of_passesOver rfl rfl rfl

end Request

theorem showsPersonalData_expression_iff (spelling : Spelling) (address : PersonalAddress) :
    showsPersonalData (address.expression spelling) = true ↔
      spelling = .concatenated ∨ showsLiterally (address.expression spelling) = true := by
  cases spelling with
  | concatenated => simp [address.showsPersonalData_concatenated]
  | interpolated => simp [address.showsPersonalData_interpolated]

theorem breaks_personalData_iff (config : Config) (firesOn : String) (request : Request)
    (spelling : Spelling) (address : PersonalAddress) (rest : List Char) :
    breaks config firesOn (request.script (address.argument spelling) rest) .personalData = true ↔
      spelling = .concatenated ∨ showsLiterally (address.expression spelling) = true ∨
        ∃ url ∈ outboundUrls (request.inside (address.argument spelling) rest),
          showsPersonalData url = true := by
  rw [breaks, List.any_eq_true, ← or_assoc, ← showsPersonalData_expression_iff]
  constructor
  · rintro ⟨url, hurl, hshown⟩
    rcases (request.mem_outboundUrls_script ..).mp hurl with rfl | hurl
    · exact .inl hshown
    · exact .inr ⟨url, hurl, hshown⟩
  · rintro (hshown | ⟨url, hurl, hshown⟩)
    · exact ⟨_, (request.mem_outboundUrls_script ..).mpr (.inl rfl), hshown⟩
    · exact ⟨url, (request.mem_outboundUrls_script ..).mpr (.inr hurl), hshown⟩

/-- A request to an address with personal data is reported exactly if the intervals of timers can be
read, and the address is concatenated, or shows such data by its text, or is not the only one. -/
theorem reports_personalAddress_iff (config : Config) (firesOn : String) (request : Request)
    (spelling : Spelling) (address : PersonalAddress) (rest : List Char) :
    Reports config firesOn (request.script (address.argument spelling) rest) .personalData ↔
      TimersReadable config (request.script (address.argument spelling) rest) ∧
        (spelling = .concatenated ∨ showsLiterally (address.expression spelling) = true ∨
          ∃ url ∈ outboundUrls (request.inside (address.argument spelling) rest),
            showsPersonalData url = true) := by
  rw [reports_iff, breaks_personalData_iff]

/-- The address of a query for a mail address. -/
def mailQuery : PersonalAddress where
  plain := "/c?u=".toList
  identifier := "userEmail".toList
  before := []
  after := []
  unquoted := rfl
  unmarked := by decide
  wordlike := by decide
  suggestive := ⟨"mail", by decide, "usere".toList, [], by decide⟩
  blankBefore := rfl
  blankAfter := rfl

/-- The query is reported where it is concatenated, and missed where it is interpolated. -/
theorem not_reports_mailQuery :
    Reports Config.default "UNKNOWN" ((Request.fetch []).script
        (mailQuery.argument .concatenated) []) .personalData ∧
      ¬ Reports Config.default "UNKNOWN" ((Request.fetch []).script
        (mailQuery.argument .interpolated) []) .personalData := by
  decide +kernel

/-- A request of a script that makes no other call and assigns no source is reported exactly if the
address is concatenated or shows personal data by its text. -/
theorem reports_loneRequest_iff (config : Config) (firesOn : String) {request : Request}
    {spelling : Spelling} {address : PersonalAddress} {rest : List Char}
    (hcall : '(' ∉ request.inside (address.argument spelling) rest)
    (hsource : ¬ ".src".toList <:+: request.inside (address.argument spelling) rest) :
    Reports config firesOn (request.script (address.argument spelling) rest) .personalData ↔
      spelling = .concatenated ∨ showsLiterally (address.expression spelling) = true := by
  have hassigns : sourceAssignment.Requires ".src".toList := (requires_word ".src").seq_left
  have hothers : ∀ url, url ∉ outboundUrls (request.inside (address.argument spelling) rest) := by
    intro url hurl
    rcases mem_outboundUrls.mp hurl with ⟨sender, hurl⟩ | hurl
    · rw [callArguments_eq_nil hcall] at hurl
      cases hurl
    · rw [findAll_eq_nil hassigns hsource] at hurl
      cases hurl
  have htimers : TimersReadable config (request.script (address.argument spelling) rest) := by
    intro timer htimer
    rw [timerIntervals, Request.script, request.callArguments_timer htimer,
      callArguments_eq_nil hcall]
    exact Failure.soundUntil_nil _ _
  rw [reports_iff, breaks_personalData_iff, and_iff_right htimers, ← or_assoc]
  refine or_iff_left ?_
  rintro ⟨url, hurl, -⟩
  exact hothers url hurl

end Script

end TagAudit
