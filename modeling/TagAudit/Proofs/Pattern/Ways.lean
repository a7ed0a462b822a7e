import Mathlib.Data.List.Forall2
import TagAudit.Pattern

/-!
# The ways in which a pattern holds

A pattern can hold at a place in several ways, which are tried in a certain order. Going on with the
first way that leads to a result is what trying a pattern comes to, so all that is said about
patterns is said about their ways. A way takes a part of the text after the place, and nothing
before a character that the tests of the pattern do not know matters to it.
-/

namespace TagAudit.Pattern

/-- The ways to take a run, the longest first: the text before and after the end of each. -/
def runWays (cls : Char → Bool) :
    (least : Nat) → (before rest : List Char) → List (List Char × List Char)
  | least, before, [] => if least = 0 then [(before, [])] else []
  | least, before, c :: rest =>
    let here := if least = 0 then [(before, c :: rest)] else []
    if cls c then runWays cls (least - 1) (c :: before) rest ++ here else here

/-- The places where the pattern can end that begins at a place, in the order of the trials. -/
def ways : Pattern → Cursor → List Cursor
  | empty, place => [place]
  | char cls, place =>
    match place.rest with
    | [] => []
    | c :: rest => if cls c then [⟨c :: place.before, rest, place.captured⟩] else []
  | run cls least, place =>
    (runWays cls least place.before place.rest).map fun way => ⟨way.1, way.2, place.captured⟩
  | seq first second, place => (first.ways place).flatMap second.ways
  | alt first second, place => first.ways place ++ second.ways place
  | ahead inner, place => if (inner.ways place).isEmpty then [] else [place]
  | notAhead inner, place => if (inner.ways place).isEmpty then [place] else []
  | after cls, place => if place.previousIs cls then [place] else []
  | notAfter cls, place => if place.previousIs cls then [] else [place]
  | wordEdge, place =>
    if place.previousIs Text.isWord != place.nextIs Text.isWord then [place] else []
  | capture inner, place =>
    (inner.ways place).map fun later => ⟨later.before, later.rest, place.textSince later⟩

section Trials

variable {β : Type}

theorem findSome?_flatMap {α γ : Type} (f : α → List γ) (goOn : γ → Option β) (xs : List α) :
    (xs.flatMap f).findSome? goOn = xs.findSome? fun x => (f x).findSome? goOn := by
  induction xs with
  | nil => rfl
  | cons x xs ih =>
    rw [List.flatMap_cons, List.findSome?_append, ih, List.findSome?_cons]
    cases (f x).findSome? goOn <;> rfl

theorem tryRun_eq (cls : Char → Bool) (goOn : List Char → List Char → Option β) (least : Nat)
    (before rest : List Char) :
    tryRun cls goOn least before rest =
      (runWays cls least before rest).findSome? fun way => goOn way.1 way.2 := by
  induction rest generalizing least before with
  | nil =>
    rw [tryRun, runWays]
    split <;> simp
  | cons c rest ih =>
    simp only [tryRun, runWays, ih]
    split
    · rw [List.findSome?_append]
      split <;> simp
    · split <;> simp

/-- Trying a pattern is going on with the first of its ways that leads to a result. -/
theorem tryAt_eq (p : Pattern) (place : Cursor) (goOn : Cursor → Option β) :
    p.tryAt place goOn = (p.ways place).findSome? goOn := by
  induction p generalizing β place with
  | empty => simp [tryAt, ways]
  | char cls =>
    obtain ⟨before, rest, captured⟩ := place
    cases rest with
    | nil => rfl
    | cons c rest =>
      simp only [tryAt, ways]
      split <;> simp
  | run cls least =>
    rw [tryAt, ways, tryRun_eq, List.findSome?_map]
    rfl
  | seq first second ihf ihs =>
    simp only [tryAt, ways, ihf, ihs, findSome?_flatMap]
  | alt first second ihf ihs =>
    rw [tryAt, ways, ihf, ihs, List.findSome?_append, Option.or_eq_orElse]
  | ahead inner ih | notAhead inner ih =>
    simp only [tryAt, ways, ih]
    cases inner.ways place <;> simp
  | after cls | notAfter cls | wordEdge =>
    simp only [tryAt, ways]
    split <;> simp
  | capture inner ih =>
    rw [tryAt, ways, ih, List.findSome?_map]
    rfl

/-- A pattern ends where its first way does. -/
theorem endAt?_eq (p : Pattern) (place : Cursor) : p.endAt? place = (p.ways place).head? := by
  rw [endAt?, tryAt_eq]
  cases p.ways place <;> rfl

theorem mem_ways_of_endAt? {p : Pattern} {place stop : Cursor} (h : p.endAt? place = some stop) :
    stop ∈ p.ways place := by
  rw [endAt?_eq] at h
  exact List.mem_of_mem_head? h

/-- A pattern holds at a place if there is a way. -/
theorem holdsAt_of_mem_ways {p : Pattern} {place stop : Cursor} (h : stop ∈ p.ways place) :
    p.holdsAt place = true := by
  rw [holdsAt, endAt?_eq, List.isSome_head?]
  exact List.ne_nil_of_mem h

end Trials

section Sequences

variable {first second : Pattern} {place middle stop : Cursor}

/-- Two patterns end where the second does after the first, if it holds there. -/
theorem endAt?_seq (hfirst : first.endAt? place = some middle)
    (hsecond : second.endAt? middle = some stop) : (seq first second).endAt? place = some stop := by
  rw [endAt?_eq] at hfirst hsecond ⊢
  obtain ⟨others, hothers⟩ := List.head?_eq_some_iff.mp hfirst
  rw [ways, hothers, List.flatMap_cons, List.head?_append, hsecond]
  rfl

theorem mem_ways_seq (hfirst : middle ∈ first.ways place) (hsecond : stop ∈ second.ways middle) :
    stop ∈ (seq first second).ways place :=
  List.mem_flatMap.mpr ⟨middle, hfirst, hsecond⟩

theorem ways_all_append (patterns others : List Pattern) (place : Cursor) :
    (all (patterns ++ others)).ways place =
      ((all patterns).ways place).flatMap (all others).ways := by
  induction patterns generalizing place with
  | nil => exact (List.flatMap_singleton ..).symm
  | cons p patterns ih =>
    have hrest : (all (patterns ++ others)).ways =
        fun place => ((all patterns).ways place).flatMap (all others).ways := funext ih
    calc (all (p :: patterns ++ others)).ways place
        = (p.ways place).flatMap (all (patterns ++ others)).ways := rfl
      _ = ((p.ways place).flatMap (all patterns).ways).flatMap (all others).ways := by
          rw [hrest, List.flatMap_assoc]

theorem endAt?_all_append {patterns others : List Pattern}
    (hfirst : (all patterns).endAt? place = some middle)
    (hsecond : (all others).endAt? middle = some stop) :
    (all (patterns ++ others)).endAt? place = some stop := by
  have hseq := endAt?_seq hfirst hsecond
  rwa [endAt?_eq, ways, ← ways_all_append, ← endAt?_eq] at hseq

theorem holdsAt_wordEdge_seq : (seq wordEdge second).holdsAt place = true ↔
    place.previousIs Text.isWord ≠ place.nextIs Text.isWord ∧ second.holdsAt place = true := by
  rw [holdsAt, holdsAt, endAt?_eq, endAt?_eq, ways, ways]
  split
  next hedge => simp [bne_iff_ne.mp hedge]
  next hedge => simpa using fun hne => absurd (bne_iff_ne.mpr hne) hedge

/-- Each of several patterns has its ways. -/
theorem mem_ways_any {patterns : List Pattern} {p : Pattern} (hp : p ∈ patterns)
    (h : stop ∈ p.ways place) : stop ∈ (any patterns).ways place := by
  induction patterns with
  | nil => cases hp
  | cons q patterns ih =>
    cases patterns with
    | nil =>
      obtain rfl := List.mem_singleton.mp hp
      exact h
    | cons q' patterns =>
      rcases List.mem_cons.mp hp with rfl | hp
      · exact List.mem_append_left _ h
      · exact List.mem_append_right _ (ih hp)

/-- Characters that are of given classes one by one are taken in one way. -/
theorem ways_all_map_char {α : Type} {f : α → Char → Bool} {keys : List α} {taken : List Char}
    (h : List.Forall₂ (fun key c => f key c = true) keys taken) (before left captured : List Char) :
    (all (keys.map fun key => char (f key))).ways ⟨before, taken ++ left, captured⟩ =
      [⟨taken.reverse ++ before, left, captured⟩] := by
  induction h generalizing before with
  | nil => rfl
  | @cons key c keys taken hc _ ih =>
    have hnext := ih (c :: before)
    simp only [all] at hnext
    simp [all, ways, hc, hnext]

/-- A word ends after its characters. -/
theorem endAt?_word (s : String) (before left captured : List Char) :
    (word s).endAt? ⟨before, s.toList ++ left, captured⟩ =
      some ⟨s.toList.reverse ++ before, left, captured⟩ := by
  have hsame : List.Forall₂ (fun key c : Char => (c == key) = true) s.toList s.toList :=
    List.forall₂_same.mpr fun c _ => beq_self_eq_true c
  rw [endAt?_eq, word, ways_all_map_char hsame]
  rfl

end Sequences

section Runs

variable {cls : Char → Bool} {taken left : List Char}

theorem mem_runWays_cons {least : Nat} {before rest : List Char} {c : Char}
    {way : List Char × List Char} : way ∈ runWays cls least before (c :: rest) ↔
      (cls c = true ∧ way ∈ runWays cls (least - 1) (c :: before) rest) ∨
        (least = 0 ∧ way = (before, c :: rest)) := by
  have hhere : way ∈ (if least = 0 then [(before, c :: rest)] else []) ↔
      least = 0 ∧ way = (before, c :: rest) := by
    split <;> simp [*]
  rw [← hhere]
  simp only [runWays]
  split <;> simp [*]

/-- The ways to take a run are the parts of enough characters of the class. -/
theorem mem_runWays {least : Nat} {before rest : List Char} {way : List Char × List Char} :
    way ∈ runWays cls least before rest ↔ ∃ taken, rest = taken ++ way.2 ∧
      way.1 = taken.reverse ++ before ∧ least ≤ taken.length ∧ ∀ c ∈ taken, cls c = true := by
  induction rest generalizing least before with
  | nil =>
    constructor
    · intro h
      rw [runWays] at h
      split at h
      next hleast =>
        obtain rfl := List.mem_singleton.mp h
        exact ⟨[], rfl, rfl, Nat.le_of_eq hleast, List.forall_mem_nil _⟩
      next => cases h
    · rintro ⟨taken, hrest, hbefore, hleast, -⟩
      obtain ⟨rfl, hleft⟩ := List.append_eq_nil_iff.mp hrest.symm
      obtain rfl : least = 0 := Nat.le_zero.mp hleast
      exact List.mem_singleton.mpr (Prod.ext hbefore hleft)
  | cons c rest ih =>
    rw [mem_runWays_cons, ih]
    constructor
    · rintro (⟨hc, taken, hrest, hbefore, hleast, hall⟩ | ⟨rfl, rfl⟩)
      · refine ⟨c :: taken, by rw [hrest, List.cons_append], ?_, ?_, ?_⟩
        · rw [hbefore, List.reverse_cons, List.append_assoc, List.singleton_append]
        · exact Nat.le_add_of_sub_le hleast
        · exact List.forall_mem_cons.mpr ⟨hc, hall⟩
      · exact ⟨[], rfl, rfl, Nat.le_refl 0, List.forall_mem_nil _⟩
    · rintro ⟨taken, hrest, hbefore, hleast, hall⟩
      cases taken with
      | nil => exact .inr ⟨Nat.le_zero.mp hleast, Prod.ext hbefore hrest.symm⟩
      | cons d taken =>
        obtain ⟨rfl, hlater⟩ := List.cons.inj hrest
        obtain ⟨hc, hall⟩ := List.forall_mem_cons.mp hall
        rw [List.reverse_cons, List.append_assoc, List.singleton_append] at hbefore
        exact .inl ⟨hc, taken, hlater, hbefore, Nat.sub_le_of_le_add hleast, hall⟩

/-- The first way to take a run is the longest. -/
theorem head?_runWays (hall : ∀ c ∈ taken, cls c = true) {least : Nat}
    (hleast : least ≤ taken.length) (before : List Char) (hend : left.head?.any cls = false) :
    (runWays cls least before (taken ++ left)).head? = some (taken.reverse ++ before, left) := by
  induction taken generalizing least before with
  | nil =>
    obtain rfl : least = 0 := Nat.le_zero.mp hleast
    cases left with
    | nil => rfl
    | cons c left =>
      have hc : ¬ cls c = true := Bool.not_eq_true _ ▸ hend
      simp [runWays, hc]
  | cons c taken ih =>
    obtain ⟨hc, hall⟩ := List.forall_mem_cons.mp hall
    have hfew : least - 1 ≤ taken.length := Nat.sub_le_of_le_add hleast
    simp [runWays, hc, List.head?_append, ih hall hfew]

/-- A run that is remembered is remembered as a whole. -/
theorem endAt?_capture_run (hall : ∀ c ∈ taken, cls c = true) {least : Nat}
    (hleast : least ≤ taken.length) (hend : left.head?.any cls = false)
    (before captured : List Char) :
    (capture (run cls least)).endAt? ⟨before, taken ++ left, captured⟩ =
      some ⟨taken.reverse ++ before, left, taken⟩ := by
  rw [endAt?_eq, ways, ways, List.head?_map, List.head?_map, head?_runWays hall hleast before hend]
  simp [Cursor.textSince]

end Runs

section Lengths

/-- The least number of characters that the pattern takes. -/
def leastLength : Pattern → Nat
  | char _ => 1
  | run _ least => least
  | seq first second => first.leastLength + second.leastLength
  | alt first second => min first.leastLength second.leastLength
  | capture inner => inner.leastLength
  | _ => 0

/-- A later place of the text is reached by taking so many characters or more. -/
def Cursor.Reaches (least : Nat) (place later : Cursor) : Prop :=
  ∃ taken, place.rest = taken ++ later.rest ∧ later.before = taken.reverse ++ place.before ∧
    least ≤ taken.length

theorem Cursor.Reaches.refl (place : Cursor) : place.Reaches 0 place :=
  ⟨[], rfl, rfl, Nat.le_refl 0⟩

theorem Cursor.Reaches.trans {m n : Nat} {place middle later : Cursor}
    (h : place.Reaches m middle) (h' : middle.Reaches n later) : place.Reaches (m + n) later := by
  obtain ⟨taken, hrest, hbefore, hm⟩ := h
  obtain ⟨taken', hrest', hbefore', hn⟩ := h'
  refine ⟨taken ++ taken', ?_, ?_, ?_⟩
  · rw [hrest, hrest', List.append_assoc]
  · rw [hbefore', hbefore, List.reverse_append, List.append_assoc]
  · rw [List.length_append]
    exact Nat.add_le_add hm hn

theorem Cursor.Reaches.mono {m n : Nat} {place later : Cursor} (h : place.Reaches n later)
    (hle : m ≤ n) : place.Reaches m later := by
  obtain ⟨taken, hrest, hbefore, hn⟩ := h
  exact ⟨taken, hrest, hbefore, Nat.le_trans hle hn⟩

theorem Cursor.Reaches.length_le {n : Nat} {place later : Cursor} (h : place.Reaches n later) :
    n + later.rest.length ≤ place.rest.length := by
  obtain ⟨taken, hrest, -, hn⟩ := h
  rw [hrest, List.length_append]
  omega

/-- Every way takes a part of the text. -/
theorem reaches_of_mem_ways {p : Pattern} {place stop : Cursor} (h : stop ∈ p.ways place) :
    place.Reaches p.leastLength stop := by
  induction p generalizing place stop with
  | empty =>
    obtain rfl := List.mem_singleton.mp h
    exact .refl stop
  | char cls =>
    obtain ⟨before, rest, captured⟩ := place
    cases rest with
    | nil => cases h
    | cons c rest =>
      simp only [ways] at h
      split at h
      · obtain rfl := List.mem_singleton.mp h
        exact ⟨[c], rfl, rfl, Nat.le_refl 1⟩
      · cases h
  | run cls least =>
    obtain ⟨way, hway, rfl⟩ := List.mem_map.mp h
    obtain ⟨taken, hrest, hbefore, hleast, -⟩ := mem_runWays.mp hway
    exact ⟨taken, hrest, hbefore, hleast⟩
  | seq first second ihf ihs =>
    obtain ⟨middle, hfirst, hsecond⟩ := List.mem_flatMap.mp h
    exact (ihf hfirst).trans (ihs hsecond)
  | alt first second ihf ihs =>
    rcases List.mem_append.mp h with h | h
    · exact (ihf h).mono (Nat.min_le_left ..)
    · exact (ihs h).mono (Nat.min_le_right ..)
  | ahead inner | notAhead inner | after cls | notAfter cls | wordEdge =>
    simp only [ways] at h
    split at h <;> simp_all [leastLength, Cursor.Reaches.refl]
  | capture inner ih =>
    obtain ⟨later, hlater, rfl⟩ := List.mem_map.mp h
    obtain ⟨taken, hrest, hbefore, hleast⟩ := ih hlater
    exact ⟨taken, hrest, hbefore, hleast⟩

/-- Can no character that the pattern takes be this one? -/
def avoids (c : Char) : Pattern → Bool
  | char cls | run cls _ => !cls c
  | seq first second | alt first second => first.avoids c && second.avoids c
  | capture inner => inner.avoids c
  | _ => true

/-- No way takes a character that the pattern avoids. -/
theorem exists_taken_of_avoids {p : Pattern} {c : Char} (hp : p.avoids c = true)
    {place stop : Cursor} (h : stop ∈ p.ways place) :
    ∃ taken, place.rest = taken ++ stop.rest ∧ c ∉ taken := by
  induction p generalizing place stop with
  | empty =>
    obtain rfl := List.mem_singleton.mp h
    exact ⟨[], rfl, List.not_mem_nil⟩
  | char cls =>
    obtain ⟨before, rest, captured⟩ := place
    cases rest with
    | nil => cases h
    | cons d rest =>
      simp only [ways] at h
      split at h
      next hd =>
        obtain rfl := List.mem_singleton.mp h
        refine ⟨[d], rfl, fun hmem => ?_⟩
        obtain rfl := List.mem_singleton.mp hmem
        simp [avoids, hd] at hp
      next => cases h
  | run cls least =>
    obtain ⟨way, hway, rfl⟩ := List.mem_map.mp h
    obtain ⟨taken, hrest, -, -, hall⟩ := mem_runWays.mp hway
    refine ⟨taken, hrest, fun hmem => ?_⟩
    simp [avoids, hall c hmem] at hp
  | seq first second ihf ihs =>
    obtain ⟨hf, hs⟩ := (Bool.and_eq_true ..).mp hp
    obtain ⟨middle, hfirst, hsecond⟩ := List.mem_flatMap.mp h
    obtain ⟨taken, hrest, hmem⟩ := ihf hf hfirst
    obtain ⟨taken', hrest', hmem'⟩ := ihs hs hsecond
    refine ⟨taken ++ taken', by rw [hrest, hrest', List.append_assoc], ?_⟩
    exact fun hboth => (List.mem_append.mp hboth).elim hmem hmem'
  | alt first second ihf ihs =>
    obtain ⟨hf, hs⟩ := (Bool.and_eq_true ..).mp hp
    rcases List.mem_append.mp h with h | h
    · exact ihf hf h
    · exact ihs hs h
  | ahead inner | notAhead inner | after cls | notAfter cls | wordEdge =>
    have hstop : stop = place := by
      simp only [ways] at h
      split at h <;> simp_all
    exact ⟨[], by rw [hstop, List.nil_append], List.not_mem_nil⟩
  | capture inner ih =>
    obtain ⟨later, hlater, rfl⟩ := List.mem_map.mp h
    obtain ⟨taken, hrest, hmem⟩ := ih hp hlater
    exact ⟨taken, hrest, hmem⟩

end Lengths

section Fronts

variable {c : Char} {front : List Char}

/-- Does no test of the pattern on the character before a place know the character? -/
def ignores (c : Char) : Pattern → Bool
  | after cls | notAfter cls => !cls c
  | wordEdge => !Text.isWord c
  | seq first second | alt first second => first.ignores c && second.ignores c
  | ahead inner | notAhead inner | capture inner => inner.ignores c
  | _ => true

theorem ignores_all {patterns : List Pattern} (h : ∀ p ∈ patterns, p.ignores c = true) :
    (all patterns).ignores c = true := by
  induction patterns with
  | nil => rfl
  | cons p patterns ih =>
    obtain ⟨hp, hpatterns⟩ := List.forall_mem_cons.mp h
    exact (Bool.and_eq_true ..).mpr ⟨hp, ih hpatterns⟩

theorem ignores_word (s : String) : (word s).ignores c = true := by
  refine ignores_all fun p hp => ?_
  obtain ⟨d, -, rfl⟩ := List.mem_map.mp hp
  rfl

/-- The place in a longer text, whose beginning `front` is reversed. -/
def Cursor.within (front : List Char) (place : Cursor) : Cursor :=
  { place with before := place.before ++ front }

theorem Cursor.previousIs_within {cls : Char → Bool} (h : cls c = false) (place : Cursor) :
    (place.within (c :: front)).previousIs cls = place.previousIs cls := by
  obtain ⟨before, rest, captured⟩ := place
  cases before <;> simp [Cursor.within, Cursor.previousIs, h]

theorem Cursor.textSince_within (place later : Cursor) :
    (place.within front).textSince (later.within front) = place.textSince later := by
  simp only [Cursor.within, Cursor.textSince, List.length_append]
  rw [Nat.add_sub_add_right, List.take_append_of_le_length (Nat.sub_le ..)]

theorem runWays_within (cls : Char → Bool) (least : Nat) (before rest : List Char) :
    runWays cls least (before ++ front) rest =
      (runWays cls least before rest).map fun way => (way.1 ++ front, way.2) := by
  induction rest generalizing least before with
  | nil =>
    simp only [runWays]
    split <;> rfl
  | cons c rest ih =>
    have hnext := ih (least - 1) (c :: before)
    rw [List.cons_append] at hnext
    simp only [runWays, hnext]
    split <;> split <;> simp

/-- Nothing before a character that the pattern ignores matters to its ways. -/
theorem ways_within {p : Pattern} (h : p.ignores c = true) (place : Cursor) :
    p.ways (place.within (c :: front)) = (p.ways place).map (·.within (c :: front)) := by
  induction p generalizing place with
  | empty => rfl
  | char cls =>
    obtain ⟨before, rest, captured⟩ := place
    cases rest with
    | nil => rfl
    | cons d rest =>
      simp only [ways, Cursor.within]
      split <;> rfl
  | run cls least =>
    rw [ways, Cursor.within, runWays_within, List.map_map, ways, List.map_map]
    rfl
  | seq first second ihf ihs =>
    obtain ⟨hf, hs⟩ := (Bool.and_eq_true ..).mp h
    simp only [ways, ihf hf, ihs hs, List.flatMap_map, List.map_flatMap]
  | alt first second ihf ihs =>
    obtain ⟨hf, hs⟩ := (Bool.and_eq_true ..).mp h
    rw [ways, ihf hf, ihs hs, ways, List.map_append]
  | ahead inner ih | notAhead inner ih =>
    simp only [ways, ih h, List.isEmpty_map]
    split <;> rfl
  | after cls | notAfter cls =>
    simp only [ways, Cursor.previousIs_within (Bool.not_eq_true' _ |>.mp h)]
    split <;> rfl
  | wordEdge =>
    simp only [ways, Cursor.previousIs_within (Bool.not_eq_true' _ |>.mp h)]
    have hnext : (place.within (c :: front)).nextIs Text.isWord = place.nextIs Text.isWord := rfl
    rw [hnext]
    split <;> rfl
  | capture inner ih =>
    simp only [ways, ih h, List.map_map, Function.comp_def, Cursor.textSince_within]
    rfl

theorem endAt?_within {p : Pattern} (h : p.ignores c = true) (place : Cursor) :
    p.endAt? (place.within (c :: front)) = (p.endAt? place).map (·.within (c :: front)) := by
  rw [endAt?_eq, ways_within h, List.head?_map, endAt?_eq]

end Fronts

end TagAudit.Pattern
