import Mathlib.Computability.Language
import TagAudit.Proofs.Pattern.Ways

/-!
# Patterns as languages

A pattern that tests nothing but the characters that it takes accepts a language: it holds where
the text goes on with a word of the language, and it takes that word. Patterns one after the other
accept products of languages, and alternatives accept sums.
-/

namespace TagAudit.Pattern

namespace Cursor

/-- The later place is the one after a part of the text is taken. -/
def Takes (place : Cursor) (taken : List Char) (later : Cursor) : Prop :=
  place.rest = taken ++ later.rest ∧ later.before = taken.reverse ++ place.before ∧
    later.captured = place.captured

variable {place later : Cursor}

theorem takes_nil_iff : place.Takes [] later ↔ later = place := by
  constructor
  · rintro ⟨hrest, hbefore, hcaptured⟩
    cases place
    cases later
    simp_all
  · rintro rfl
    exact ⟨rfl, rfl, rfl⟩

theorem takes_append_iff {s t : List Char} :
    place.Takes (s ++ t) later ↔
      ∃ middle : Cursor, place.Takes s middle ∧ middle.Takes t later := by
  constructor
  · rintro ⟨hrest, hbefore, hcaptured⟩
    refine ⟨⟨s.reverse ++ place.before, t ++ later.rest, place.captured⟩, ⟨?_, rfl, rfl⟩, rfl, ?_,
      hcaptured⟩
    · rw [hrest, List.append_assoc]
    · rw [hbefore, List.reverse_append, List.append_assoc]
  · rintro ⟨middle, ⟨hrest, hbefore, hcaptured⟩, hrest', hbefore', hcaptured'⟩
    refine ⟨?_, ?_, hcaptured'.trans hcaptured⟩
    · rw [hrest, hrest', List.append_assoc]
    · rw [hbefore', hbefore, List.reverse_append, List.append_assoc]

end Cursor

/-- The ways of the pattern are those to take a word of the language. -/
def Accepts (p : Pattern) (words : Language Char) : Prop :=
  ∀ place stop : Cursor, stop ∈ p.ways place ↔ ∃ taken ∈ words, place.Takes taken stop

/-- The texts of one character of a class. -/
def singles (cls : Char → Bool) : Language Char := {taken | ∃ c, cls c = true ∧ taken = [c]}

/-- The texts of enough characters of a class. -/
def runs (cls : Char → Bool) (least : Nat) : Language Char :=
  {taken : List Char | least ≤ taken.length ∧ ∀ c ∈ taken, cls c = true}

/-- The texts that read as the keys, each character by a representative. -/
def spellings (f : Char → Char) (keys : List Char) : Language Char :=
  {taken : List Char | taken.map f = keys}

section Acceptance

variable {first second : Pattern} {words others : Language Char}

theorem accepts_empty : empty.Accepts 1 := by
  intro place stop
  simp [ways, Language.mem_one, Cursor.takes_nil_iff]

theorem accepts_char (cls : Char → Bool) : (char cls).Accepts (singles cls) := by
  rintro ⟨before, rest, captured⟩ stop
  constructor
  · intro h
    cases rest with
    | nil => cases h
    | cons c rest =>
      simp only [ways] at h
      split at h
      next hc =>
        obtain rfl := List.mem_singleton.mp h
        exact ⟨[c], ⟨c, hc, rfl⟩, rfl, rfl, rfl⟩
      next => cases h
  · rintro ⟨taken, ⟨c, hc, rfl⟩, hrest, hbefore, hcaptured⟩
    obtain rfl : rest = c :: stop.rest := hrest
    have hstop : stop = ⟨c :: before, stop.rest, captured⟩ := by
      cases stop
      simp_all
    rw [hstop, ways]
    simp [hc]

theorem accepts_run (cls : Char → Bool) (least : Nat) :
    (run cls least).Accepts (runs cls least) := by
  intro place stop
  constructor
  · intro h
    obtain ⟨way, hway, rfl⟩ := List.mem_map.mp h
    obtain ⟨taken, hrest, hbefore, hleast, hall⟩ := mem_runWays.mp hway
    exact ⟨taken, ⟨hleast, hall⟩, hrest, hbefore, rfl⟩
  · rintro ⟨taken, ⟨hleast, hall⟩, hrest, hbefore, hcaptured⟩
    have hway : (stop.before, stop.rest) ∈ runWays cls least place.before place.rest :=
      mem_runWays.mpr ⟨taken, hrest, hbefore, hleast, hall⟩
    refine List.mem_map.mpr ⟨_, hway, ?_⟩
    rw [← hcaptured]

theorem Accepts.seq (hfirst : first.Accepts words) (hsecond : second.Accepts others) :
    (seq first second).Accepts (words * others) := by
  intro place stop
  rw [ways, List.mem_flatMap]
  constructor
  · rintro ⟨middle, hmiddle, hstop⟩
    obtain ⟨s, hs, htakes⟩ := (hfirst place middle).mp hmiddle
    obtain ⟨t, ht, htakes'⟩ := (hsecond middle stop).mp hstop
    exact ⟨s ++ t, Language.append_mem_mul hs ht,
      Cursor.takes_append_iff.mpr ⟨middle, htakes, htakes'⟩⟩
  · rintro ⟨taken, htaken, htakes⟩
    obtain ⟨s, hs, t, ht, rfl⟩ := Language.mem_mul.mp htaken
    obtain ⟨middle, htakes, htakes'⟩ := Cursor.takes_append_iff.mp htakes
    exact ⟨middle, (hfirst place middle).mpr ⟨s, hs, htakes⟩,
      (hsecond middle stop).mpr ⟨t, ht, htakes'⟩⟩

theorem Accepts.alt (hfirst : first.Accepts words) (hsecond : second.Accepts others) :
    (alt first second).Accepts (words + others) := by
  intro place stop
  rw [ways, List.mem_append, hfirst, hsecond]
  simp only [Language.mem_add, or_and_right, exists_or]

/-- Characters that are compared one by one are taken if they compare. -/
theorem accepts_all_chars (f : Char → Char) (keys : List Char) :
    (all (keys.map fun key => char (f · == key))).Accepts (spellings f keys) := by
  induction keys with
  | nil =>
    have hwords : spellings f [] = 1 := by
      refine Language.ext fun taken => ?_
      rw [Language.mem_one]
      exact List.map_eq_nil_iff
    rw [hwords]
    exact accepts_empty
  | cons key keys ih =>
    have hwords : spellings f (key :: keys) = singles (f · == key) * spellings f keys := by
      refine Language.ext fun taken => ?_
      rw [Language.mem_mul]
      constructor
      · intro h
        obtain ⟨c, left, rfl, hc, hleft⟩ := List.map_eq_cons_iff.mp h
        exact ⟨[c], ⟨c, beq_iff_eq.mpr hc, rfl⟩, left, hleft, rfl⟩
      · rintro ⟨_, ⟨c, hc, rfl⟩, left, hleft, rfl⟩
        exact List.map_eq_cons_iff.mpr ⟨c, left, rfl, beq_iff_eq.mp hc, hleft⟩
    rw [hwords]
    exact (accepts_char _).seq ih

theorem accepts_word (s : String) : (word s).Accepts {s.toList} := by
  have hwords : spellings id s.toList = {s.toList} := by
    refine Language.ext fun taken => ?_
    have hspelling : taken ∈ spellings id s.toList ↔ taken.map id = s.toList := Iff.rfl
    rw [hspelling, List.map_id]
    rfl
  rw [← hwords]
  exact accepts_all_chars id s.toList

theorem accepts_anyCase (s : String) :
    (anyCase s).Accepts (spellings Text.fold s.toList) :=
  accepts_all_chars Text.fold s.toList

/-- A pattern with a language holds at a place exactly if a word of the language comes next. -/
theorem Accepts.holdsAt_iff {p : Pattern} (h : p.Accepts words) {place : Cursor} :
    p.holdsAt place = true ↔ ∃ taken ∈ words, taken <+: place.rest := by
  constructor
  · intro hholds
    obtain ⟨stop, hstop⟩ := Option.isSome_iff_exists.mp hholds
    obtain ⟨taken, htaken, hrest, -⟩ := (h place stop).mp (mem_ways_of_endAt? hstop)
    exact ⟨taken, htaken, stop.rest, hrest.symm⟩
  · rintro ⟨taken, htaken, left, hrest⟩
    have htakes : place.Takes taken ⟨taken.reverse ++ place.before, left, place.captured⟩ :=
      ⟨hrest.symm, rfl, rfl⟩
    exact holdsAt_of_mem_ways ((h place _).mpr ⟨taken, htaken, htakes⟩)

end Acceptance

section Requirements

/-- Wherever the pattern holds, the text after the place has a certain part. -/
def Requires (p : Pattern) (text : List Char) : Prop :=
  ∀ place stop, stop ∈ p.ways place → text <:+: place.rest

variable {first second : Pattern} {text : List Char}

theorem requires_word (s : String) : (word s).Requires s.toList := by
  intro place stop hstop
  obtain ⟨taken, rfl, hrest, -⟩ := (accepts_word s place stop).mp hstop
  rw [hrest]
  exact (List.prefix_append ..).isInfix

theorem Requires.seq_left (h : first.Requires text) : (seq first second).Requires text := by
  intro place stop hstop
  obtain ⟨middle, hmiddle, -⟩ := List.mem_flatMap.mp hstop
  exact h place middle hmiddle

theorem Requires.seq_right (h : second.Requires text) : (seq first second).Requires text := by
  intro place stop hstop
  obtain ⟨middle, hmiddle, hlater⟩ := List.mem_flatMap.mp hstop
  obtain ⟨taken, hrest, -, -⟩ := reaches_of_mem_ways hmiddle
  rw [hrest]
  exact (h middle stop hlater).trans (List.suffix_append ..).isInfix

end Requirements

end TagAudit.Pattern
