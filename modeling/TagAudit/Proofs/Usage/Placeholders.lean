import TagAudit.Proofs.Distinct
import TagAudit.Proofs.Json.Rearranged
import TagAudit.Usage.Placeholder

/-!
# Placeholders in texts and values

A text has a placeholder wherever two opening braces, characters that are no braces and two closing
braces stand one after another. The scanner reads every character once and never goes back. It
misses nothing, since no placeholder begins inside another: what it has read since the last place
where one can begin is all that matters to what follows. In a value, placeholders count in the texts
that are reached through its items and members in so many steps.
-/

namespace TagAudit

namespace Placeholder

/-- A text without braces. -/
def Braceless (s : List Char) : Prop := ∀ c ∈ s, c ≠ '\x7b' ∧ c ≠ '\x7d'

/-- A text between double braces. -/
def braced (inner : List Char) : List Char := '\x7b' :: '\x7b' :: (inner ++ ['\x7d', '\x7d'])

/-- A text has a placeholder for a name: somewhere the name, which is not empty, stands between
double braces, with blanks around it or not. -/
def NamedIn (text name : String) : Prop :=
  name ≠ "" ∧ ∃ inner, Braceless inner ∧ braced inner <:+: text.toList ∧
    String.ofList (Text.strip inner) = name

section Infix

variable {c : Char} {x y s : List Char}

/-- Placeholders begin with an opening brace. -/
theorem braced_infix_cons (hc : c ≠ '\x7b') : braced x <:+: c :: s ↔ braced x <:+: s := by
  rw [List.infix_cons_iff, or_iff_right]
  intro h
  exact hc (List.cons_prefix_cons.mp h).1.symm

theorem braced_infix_append (hy : ∀ c ∈ y, c ≠ '\x7b') :
    braced x <:+: y ++ s ↔ braced x <:+: s := by
  induction y with
  | nil => rfl
  | cons c y ih =>
    obtain ⟨hc, hy⟩ := List.forall_mem_cons.mp hy
    rw [List.cons_append, braced_infix_cons hc, ih hy]

/-- Placeholders begin with two opening braces. -/
theorem braced_infix_brace_append (hne : y ≠ []) (hy : ∀ c ∈ y, c ≠ '\x7b') :
    braced x <:+: '\x7b' :: (y ++ s) ↔ braced x <:+: s := by
  obtain ⟨c, y, rfl⟩ := List.exists_cons_of_ne_nil hne
  have hc := (List.forall_mem_cons.mp hy).1
  rw [List.infix_cons_iff, braced_infix_append hy, or_iff_right]
  intro h
  exact hc (List.cons_prefix_cons.mp (List.cons_prefix_cons.mp h).2).1.symm

/-- The first brace ends what stands between double braces. -/
theorem braced_prefix_iff (hx : Braceless x) (hy : Braceless y) (hc : c = '\x7b' ∨ c = '\x7d') :
    braced x <+: '\x7b' :: '\x7b' :: (y ++ c :: s) ↔ x = y ∧ ['\x7d', '\x7d'] <+: c :: s := by
  simp only [braced, List.cons_prefix_cons, true_and]
  induction x generalizing y with
  | nil =>
    cases y with
    | nil => simp
    | cons d y =>
      have hd := (List.forall_mem_cons.mp hy).1.2
      simp [hd.symm]
  | cons d x ih =>
    obtain ⟨hd, hx⟩ := List.forall_mem_cons.mp hx
    cases y with
    | nil =>
      have hne : d ≠ c := by rcases hc with rfl | rfl <;> simp [hd]
      simp [hne]
    | cons e y =>
      have hy := (List.forall_mem_cons.mp hy).2
      rw [List.cons_append, List.cons_append, List.cons_prefix_cons, ih hx hy, List.cons.injEq,
        and_assoc]

end Infix

namespace Progress

/-- The names that are being read have no braces. -/
def IsBraceless : Progress → Prop
  | outside | opened => True
  | inside name | closing name => Braceless name

/-- The text that was read since the last place where a placeholder can begin. -/
def pending : Progress → List Char
  | outside => []
  | opened => ['\x7b']
  | inside name => '\x7b' :: '\x7b' :: name.reverse
  | closing name => '\x7b' :: '\x7b' :: (name.reverse ++ ['\x7d'])

end Progress

theorem Braceless.reverse {s : List Char} (h : Braceless s) : Braceless s.reverse :=
  fun c hc => h c (List.mem_reverse.mp hc)

/-- One more character leaves no brace in a name that is being read. -/
theorem isBraceless_step {progress : Progress} (h : progress.IsBraceless) (c : Char) :
    (step progress c).1.IsBraceless := by
  have hstart : ∀ p : Prop, [Decidable p] →
      (if p then Progress.opened else .outside).IsBraceless := by
    intro p _
    split <;> exact trivial
  cases progress with
  | outside => exact hstart _
  | opened =>
    by_cases hc : c = '\x7b'
    · simp [step, hc, Progress.IsBraceless, Braceless]
    · simp [step, hc, Progress.IsBraceless]
  | inside name =>
    by_cases hopen : c = '\x7b'
    · cases name <;> simp [step, hopen, Progress.IsBraceless, Braceless]
    · by_cases hclose : c = '\x7d'
      · simpa [step, hclose, Progress.IsBraceless] using h
      · simpa [step, hopen, hclose, Progress.IsBraceless, Braceless] using h
  | closing name =>
    by_cases hc : c = '\x7d'
    · simp [step, hc, Progress.IsBraceless]
    · simp only [step, hc, if_false]
      exact hstart _

/-- A name that is complete has no braces. -/
theorem braceless_of_step {progress : Progress} (h : progress.IsBraceless) {c : Char}
    {x : List Char} (hx : (step progress c).2 = some x) : Braceless x := by
  cases progress with
  | outside | opened => cases hx
  | inside name =>
    unfold step at hx
    dsimp only at hx
    split at hx
    · cases hx
    · split at hx <;> cases hx
  | closing name =>
    unfold step at hx
    dsimp only at hx
    split at hx
    · cases hx
      exact Braceless.reverse h
    · cases hx

/-- After one more character a placeholder stands in what was read and in the rest exactly if it is
complete with the character or stands in what still matters and in the rest. -/
theorem braced_infix_pending_cons {progress : Progress} (h : progress.IsBraceless) {x : List Char}
    (hx : Braceless x) (c : Char) (s : List Char) :
    braced x <:+: progress.pending ++ c :: s ↔
      (step progress c).2 = some x ∨ braced x <:+: (step progress c).1.pending ++ s := by
  cases progress with
  | outside =>
    by_cases hc : c = '\x7b'
    · simp [step, hc, Progress.pending]
    · simp [step, hc, Progress.pending, braced_infix_cons]
  | opened =>
    by_cases hc : c = '\x7b'
    · simp [step, hc, Progress.pending]
    · have hdrop := braced_infix_brace_append (x := x) (s := s) (List.cons_ne_nil c [])
        (List.forall_mem_singleton.mpr hc)
      simpa [step, hc, Progress.pending] using hdrop
  | inside name =>
    have hname : Braceless name.reverse := Braceless.reverse h
    by_cases hopen : c = '\x7b'
    · subst hopen
      have hfirst : ¬ braced x <+: '\x7b' :: '\x7b' :: (name.reverse ++ '\x7b' :: s) := by
        simp [braced_prefix_iff hx hname (Or.inl rfl)]
      rw [Progress.pending, List.cons_append, List.cons_append, List.infix_cons_iff,
        or_iff_right hfirst]
      cases name with
      | nil => simp [step, Progress.pending]
      | cons d name =>
        have hne : (d :: name).reverse ≠ [] := by simp
        rw [braced_infix_brace_append hne fun c hc => (hname c hc).1]
        simp [step, Progress.pending]
    · by_cases hclose : c = '\x7d'
      · simp [step, hclose, Progress.pending]
      · simp [step, hopen, hclose, Progress.pending]
  | closing name =>
    have hname : Braceless name.reverse := Braceless.reverse h
    have hfirst : braced x <+: '\x7b' :: '\x7b' :: (name.reverse ++ '\x7d' :: c :: s) ↔
        c = '\x7d' ∧ name.reverse = x := by
      rw [braced_prefix_iff hx hname (Or.inr rfl)]
      simp [eq_comm, and_comm]
    have hrest : braced x <:+: '\x7b' :: (name.reverse ++ '\x7d' :: c :: s) ↔
        braced x <:+: c :: s := by
      have hclosed : ∀ d ∈ name.reverse ++ ['\x7d'], d ≠ '\x7b' := by
        intro d hd
        rcases List.mem_append.mp hd with hd | hd
        · exact (hname d hd).1
        · simp [List.mem_singleton.mp hd]
      have hdrop := braced_infix_brace_append (x := x) (s := c :: s) (by simp) hclosed
      rwa [List.append_assoc] at hdrop
    have hpending : (Progress.closing name).pending ++ c :: s =
        '\x7b' :: '\x7b' :: (name.reverse ++ '\x7d' :: c :: s) := by
      simp [Progress.pending]
    rw [hpending, List.infix_cons_iff, hfirst, hrest]
    by_cases hclose : c = '\x7d'
    · simp [step, hclose, Progress.pending, braced_infix_cons]
    · by_cases hopen : c = '\x7b'
      · simp [step, hopen, Progress.pending]
      · simp [step, hopen, hclose, Progress.pending, braced_infix_cons]

/-- No placeholder is complete before its last brace was read. -/
theorem not_braced_infix_pending {progress : Progress} (h : progress.IsBraceless) (x : List Char) :
    ¬ braced x <:+: progress.pending := by
  intro hinfix
  have hle := hinfix.sublist.count_le '\x7d'
  have htwo : 2 ≤ (braced x).count '\x7d' := by simp [braced]
  have hone : progress.pending.count '\x7d' ≤ 1 := by
    cases progress with
    | outside | opened => decide
    | inside name | closing name =>
      have hzero : name.count '\x7d' = 0 :=
        List.count_eq_zero.mpr fun hc => (h _ hc).2 rfl
      simp [Progress.pending, hzero]
  omega

/-- The scanner completes exactly the names between double braces in what still matters of the text
before and in the text that it reads. -/
theorem mem_readFrom_iff {progress : Progress} (h : progress.IsBraceless) {x s : List Char} :
    x ∈ readFrom progress s ↔ Braceless x ∧ braced x <:+: progress.pending ++ s := by
  induction s generalizing progress with
  | nil =>
    have hnone := not_braced_infix_pending h x
    simp [readFrom, hnone]
  | cons c s ih =>
    have hstep : x ∈ readFrom progress (c :: s) ↔ (step progress c).2 = some x ∨
        Braceless x ∧ braced x <:+: (step progress c).1.pending ++ s := by
      rw [readFrom, List.mem_append, Option.mem_toList, ih (isBraceless_step h c)]
    rw [hstep]
    constructor
    · intro hor
      have hx : Braceless x := hor.elim (braceless_of_step h) And.left
      exact ⟨hx, (braced_infix_pending_cons h hx c s).mpr (hor.imp_right And.right)⟩
    · rintro ⟨hx, hinfix⟩
      exact ((braced_infix_pending_cons h hx c s).mp hinfix).imp_right (And.intro hx)

/-- The names that a text has placeholders for are found, and no others. -/
theorem mem_ofText_iff {text name : String} : name ∈ ofText text ↔ NamedIn text name := by
  have hread : ∀ x, x ∈ readFrom .outside text.toList ↔
      Braceless x ∧ braced x <:+: text.toList := by
    intro x
    have hstart : Progress.outside.IsBraceless := trivial
    exact mem_readFrom_iff hstart
  simp only [ofText, List.mem_eraseDups, List.mem_filter, List.mem_map, hread, NamedIn,
    Bool.not_eq_true', String.isEmpty_eq_false_iff, and_assoc]
  exact and_comm

end Placeholder

namespace Json

/-- A value has a text so many steps into it: through the items of arrays and the values of the
members of objects. -/
inductive TextAt : (depth : Nat) → (value : Json) → (text : String) → Prop
  | here (text : String) : TextAt 0 (.string text) text
  | item {depth : Nat} {items : List Json} {value : Json} {text : String} (mem : value ∈ items)
      (inner : TextAt depth value text) : TextAt (depth + 1) (.array items) text
  | member {depth : Nat} {members : List (String × Json)} {entry : String × Json} {text : String}
      (mem : entry ∈ members) (inner : TextAt depth entry.2 text) :
      TextAt (depth + 1) (.object members) text

end Json

namespace Placeholder

/-- A text at most so many steps into a value has a placeholder for a name. -/
def NamedWithin (limit : Int) (value : Json) (name : String) : Prop :=
  ∃ depth : Nat, depth ≤ limit ∧ ∃ text, value.TextAt depth text ∧ NamedIn text name

/-- The names in a value down to a limit; below zero nothing is searched. -/
def collectWithin (limit : Int) (value : Json) : List String :=
  if limit < 0 then [] else collect limit.toNat value

theorem mem_collectItems_iff {depth : Nat} {items : List Json} {name : String} :
    name ∈ collectItems depth items ↔ ∃ value ∈ items, name ∈ collect depth value := by
  induction items with
  | nil => simp [collectItems]
  | cons value items ih => simp [collectItems, ih]

theorem mem_collectMembers_iff {depth : Nat} {members : List (String × Json)} {name : String} :
    name ∈ collectMembers depth members ↔ ∃ entry ∈ members, name ∈ collect depth entry.2 := by
  induction members with
  | nil => simp [collectMembers]
  | cons entry members ih => simp [collectMembers, ih]

/-- The names that a value has placeholders for within a depth are collected, and no others. -/
theorem mem_collect_iff {depth : Nat} {value : Json} {name : String} :
    name ∈ collect depth value ↔ NamedWithin depth value name := by
  induction value using Json.induction generalizing depth with
  | null | bool | number =>
    refine iff_of_false List.not_mem_nil ?_
    rintro ⟨_, -, text, htext, -⟩
    cases htext
  | string text =>
    rw [collect, mem_ofText_iff]
    constructor
    · intro h
      exact ⟨0, by omega, text, .here text, h⟩
    · rintro ⟨_, -, _, ⟨⟩, h⟩
      exact h
  | array items ih =>
    cases depth with
    | zero =>
      refine iff_of_false List.not_mem_nil ?_
      rintro ⟨_, hle, _, ⟨⟩, -⟩
      omega
    | succ depth =>
      rw [collect, mem_collectItems_iff]
      constructor
      · rintro ⟨value, hv, hn⟩
        obtain ⟨level, hle, text, htext, h⟩ := (ih value hv).mp hn
        exact ⟨level + 1, by omega, text, .item hv htext, h⟩
      · rintro ⟨_, hle, text, htext, h⟩
        cases htext with
        | item hv htext => exact ⟨_, hv, (ih _ hv).mpr ⟨_, by omega, text, htext, h⟩⟩
  | object members ih =>
    cases depth with
    | zero =>
      refine iff_of_false List.not_mem_nil ?_
      rintro ⟨_, hle, _, ⟨⟩, -⟩
      omega
    | succ depth =>
      rw [collect, mem_collectMembers_iff]
      constructor
      · rintro ⟨entry, he, hn⟩
        obtain ⟨level, hle, text, htext, h⟩ := (ih entry he).mp hn
        exact ⟨level + 1, by omega, text, .member he htext, h⟩
      · rintro ⟨_, hle, text, htext, h⟩
        cases htext with
        | member he htext => exact ⟨_, he, (ih _ he).mpr ⟨_, by omega, text, htext, h⟩⟩

/-- A name that is found within a limit is found within every greater one. -/
theorem NamedWithin.mono {shallow deep : Int} (hle : shallow ≤ deep) {value : Json} {name : String}
    (h : NamedWithin shallow value name) : NamedWithin deep value name := by
  obtain ⟨depth, hdepth, htext⟩ := h
  exact ⟨depth, hdepth.trans hle, htext⟩

theorem mem_collectWithin_iff {limit : Int} {value : Json} {name : String} :
    name ∈ collectWithin limit value ↔ NamedWithin limit value name := by
  unfold collectWithin
  split
  · refine iff_of_false List.not_mem_nil ?_
    rintro ⟨depth, hle, -⟩
    omega
  · rw [mem_collect_iff, Int.toNat_of_nonneg (by omega)]

/-- The scanner finds exactly the names between double braces in a text, and in a value exactly
those in its texts down to the limit; so a greater limit loses none. -/
theorem finds_exactly_named :
    (∀ text name, name ∈ ofText text ↔ NamedIn text name) ∧
    (∀ (depth : Nat) value name, name ∈ collect depth value ↔ NamedWithin depth value name) ∧
    (∀ limit value name, name ∈ collectWithin limit value ↔ NamedWithin limit value name) ∧
    ∀ shallow deep value, shallow ≤ deep →
      collectWithin shallow value ⊆ collectWithin deep value := by
  refine ⟨fun _ _ => mem_ofText_iff, fun _ _ _ => mem_collect_iff,
    fun _ _ _ => mem_collectWithin_iff, fun shallow deep value hle name hname => ?_⟩
  rw [mem_collectWithin_iff] at hname ⊢
  exact hname.mono hle

/-- Of three braces the inner two count, and a brace that opens anew drops what stands before it. -/
example : ofText "\x7b\x7b\x7b a \x7d\x7d\x7d \x7b\x7b b \x7b\x7bc\x7d\x7d" = ["a", "c"] := by
  decide +kernel

end Placeholder

end TagAudit
