import Mathlib
import TagAudit.Json.Writer
import TagAudit.Proofs.Json.DistinctKeys
import TagAudit.Proofs.Json.NumberText
import TagAudit.Proofs.Json.Rearranged
import TagAudit.Proofs.Json.StringText

/-!
# The canonical form

Two values have one canonical form exactly when they differ in the order of members only. That
they do is read off the text from the left: its first character tells the kind of the value, and a
value ends where the text has a delimiter or ends.
-/

namespace TagAudit

/-- Lists that differ in their order are sorted alike where equal keys mean equal elements. -/
theorem mergeSort_eq_of_perm {α : Type} (key : α → String) {xs ys : List α}
    (hkey : ∀ a ∈ xs, ∀ b ∈ xs, key a = key b → a = b) (h : xs.Perm ys) :
    (xs.mergeSort fun a b => key a ≤ key b) = ys.mergeSort fun a b => key a ≤ key b := by
  have hsorted : ∀ zs : List α, (zs.mergeSort fun a b => key a ≤ key b).Pairwise
      fun a b => decide (key a ≤ key b) = true := by
    refine List.pairwise_mergeSort ?_ ?_
    · intro a b c hab hbc
      exact decide_eq_true (String.le_trans (of_decide_eq_true hab) (of_decide_eq_true hbc))
    · intro a b
      simpa using String.le_total (key a) (key b)
  have hperm : ∀ zs : List α, (zs.mergeSort fun a b => key a ≤ key b).Perm zs :=
    fun zs => List.mergeSort_perm zs _
  refine List.Perm.eq_of_pairwise ?_ (hsorted xs) (hsorted ys)
    ((hperm xs).trans (h.trans (hperm ys).symm))
  intro a b ha hb hab hba
  exact hkey a ((hperm xs).mem_iff.mp ha) b (h.mem_iff.mpr ((hperm ys).mem_iff.mp hb))
    (String.le_antisymm (of_decide_eq_true hab) (of_decide_eq_true hba))

/-- Lists related element by element have one image where related elements do. -/
theorem map_eq_map_of_forall₂ {α β : Type} {R : α → α → Prop} {f : α → β} {xs ys : List α}
    (hf : ∀ x ∈ xs, ∀ y, R x y → f x = f y) (h : List.Forall₂ R xs ys) :
    xs.map f = ys.map f := by
  induction h with
  | nil => rfl
  | cons hxy _ ih =>
    obtain ⟨hx, hxs⟩ := List.forall_mem_cons.mp hf
    rw [List.map_cons, List.map_cons, hx _ hxy, ih hxs]

namespace Json

/-- A text that can follow a value: it is empty or begins with a delimiter. -/
def IsContinuation (text : List Char) : Prop := ∀ c ∈ text.head?, isDelimiter c = true

/-- A delimiter and any text can follow a value. -/
theorem isContinuation_cons {c : Char} (h : isDelimiter c = true) (rest : List Char) :
    IsContinuation (c :: rest) := by
  intro d hd
  cases hd
  exact h

/-- A text without delimiters ends where a continuation begins. -/
theorem append_inj_of_isContinuation {s t r u : List Char} (hs : ∀ c ∈ s, isDelimiter c = false)
    (ht : ∀ c ∈ t, isDelimiter c = false) (hr : IsContinuation r) (hu : IsContinuation u)
    (h : s ++ r = t ++ u) : s = t ∧ r = u := by
  induction s generalizing t with
  | nil =>
    cases t with
    | nil => exact ⟨rfl, h⟩
    | cons c t =>
      rw [List.nil_append] at h
      have hc := hr c (by rw [h]; rfl)
      rw [ht c (List.mem_cons_self ..)] at hc
      cases hc
  | cons c s ih =>
    cases t with
    | nil =>
      rw [List.nil_append] at h
      have hc := hu c (by rw [← h]; rfl)
      rw [hs c (List.mem_cons_self ..)] at hc
      cases hc
    | cons d t =>
      obtain ⟨rfl, hrest⟩ := List.cons.inj h
      obtain ⟨rfl, rfl⟩ := ih (fun x hx => hs x (List.mem_cons_of_mem _ hx))
        (fun x hx => ht x (List.mem_cons_of_mem _ hx)) hrest
      exact ⟨rfl, rfl⟩

section Pieces

variable {α : Type} {piece : α → List Char} {R : α → α → Prop} {closing : Char} {xs ys : List α}
  {r u : List Char}

/-- Pieces after a first one each bring the separator before them. -/
theorem joined_cons (separator first : List Char) (pieces : List (List Char)) :
    joined separator (first :: pieces) = first ++ pieces.flatMap (separator ++ ·) := by
  induction pieces generalizing first with
  | nil => simp [joined]
  | cons second pieces ih =>
    have hjoin : joined separator (first :: second :: pieces) =
        first ++ (separator ++ joined separator (second :: pieces)) := by
      simp [joined, List.intersperse]
    rw [hjoin, ih, List.flatMap_cons, List.append_assoc]

/-- A bracket, or the comma before one more piece, can follow a value. -/
theorem isContinuation_tail (hclosing : isDelimiter closing = true) (xs : List α)
    (r : List Char) :
    IsContinuation (xs.flatMap (fun x => ',' :: ' ' :: piece x) ++ closing :: r) := by
  cases xs with
  | nil => exact isContinuation_cons hclosing r
  | cons x xs => exact isContinuation_cons rfl _

/-- Where each piece tells its end, so do pieces with separators before them and a bracket after
them. -/
theorem forall₂_of_tail_eq (hclosing : isDelimiter closing = true) (hcomma : closing ≠ ',')
    (hpiece : ∀ x ∈ xs, ∀ y r u, IsContinuation r → IsContinuation u →
      piece x ++ r = piece y ++ u → R x y ∧ r = u)
    (h : xs.flatMap (fun x => ',' :: ' ' :: piece x) ++ closing :: r =
      ys.flatMap (fun y => ',' :: ' ' :: piece y) ++ closing :: u) :
    List.Forall₂ R xs ys ∧ r = u := by
  induction xs generalizing ys with
  | nil =>
    cases ys with
    | nil => exact ⟨.nil, (List.cons.inj h).2⟩
    | cons y ys => exact absurd (List.cons.inj h).1 hcomma
  | cons x xs ih =>
    cases ys with
    | nil => exact absurd (List.cons.inj h).1.symm hcomma
    | cons y ys =>
      simp only [List.flatMap_cons, List.cons_append, List.append_assoc, List.cons.injEq,
        true_and] at h
      obtain ⟨hxy, htail⟩ := hpiece x (List.mem_cons_self ..) y _ _
        (isContinuation_tail hclosing xs r) (isContinuation_tail hclosing ys u) h
      obtain ⟨hall, hrest⟩ := ih (fun z hz => hpiece z (List.mem_cons_of_mem _ hz)) htail
      exact ⟨.cons hxy hall, hrest⟩

/-- Where each piece tells its end and begins with no delimiter, joined pieces with a bracket
after them tell theirs. -/
theorem forall₂_of_joined_eq (hclosing : isDelimiter closing = true) (hcomma : closing ≠ ',')
    (hhead : ∀ x, ∃ c rest, piece x = c :: rest ∧ isDelimiter c = false)
    (hpiece : ∀ x ∈ xs, ∀ y r u, IsContinuation r → IsContinuation u →
      piece x ++ r = piece y ++ u → R x y ∧ r = u)
    (h : joined [',', ' '] (xs.map piece) ++ closing :: r =
      joined [',', ' '] (ys.map piece) ++ closing :: u) :
    List.Forall₂ R xs ys ∧ r = u := by
  have hne : ∀ x text rest, closing :: text ≠ piece x ++ rest := by
    intro x text rest he
    obtain ⟨c, tail, hc, hd⟩ := hhead x
    rw [hc] at he
    rw [← (List.cons.inj he).1, hclosing] at hd
    cases hd
  have htail : ∀ (x : α) (zs : List α), joined [',', ' '] ((x :: zs).map piece) =
      piece x ++ zs.flatMap (fun z => ',' :: ' ' :: piece z) := by
    intro x zs
    rw [List.map_cons, joined_cons, List.flatMap_map]
    rfl
  cases xs with
  | nil =>
    cases ys with
    | nil => exact ⟨.nil, (List.cons.inj h).2⟩
    | cons y ys =>
      rw [htail, List.append_assoc] at h
      exact absurd h (hne y _ _)
  | cons x xs =>
    cases ys with
    | nil =>
      rw [htail, List.append_assoc] at h
      exact absurd h.symm (hne x _ _)
    | cons y ys =>
      rw [htail, htail, List.append_assoc, List.append_assoc] at h
      obtain ⟨hxy, hrest⟩ := hpiece x (List.mem_cons_self ..) y _ _
        (isContinuation_tail hclosing xs r) (isContinuation_tail hclosing ys u) h
      obtain ⟨hall, hru⟩ := forall₂_of_tail_eq hclosing hcomma
        (fun z hz => hpiece z (List.mem_cons_of_mem _ hz)) hrest
      exact ⟨.cons hxy hall, hru⟩

end Pieces

section Writing

/-- Items are written one by one. -/
theorem canonicalItems_eq_map (xs : List Json) : canonicalItems xs = xs.map canonical := by
  induction xs with
  | nil => rfl
  | cons x xs ih => rw [canonicalItems, ih, List.map_cons]

/-- Members are written one by one. -/
theorem canonicalMembers_eq_map (ms : List (String × Json)) :
    canonicalMembers ms = ms.map fun m => (m.1, m.2.canonical) := by
  induction ms with
  | nil => rfl
  | cons m ms ih => rw [canonicalMembers, ih, List.map_cons]

/-- A member of an object as it is written. -/
def memberText (m : String × Json) : List Char :=
  quoted asciiChar m.1 ++ ':' :: ' ' :: m.2.canonical

/-- An array is written item by item. -/
theorem canonical_array (xs : List Json) :
    canonical (array xs) = '[' :: joined [',', ' '] (xs.map canonical) ++ [']'] := by
  rw [canonical, canonicalItems_eq_map]

/-- Values are sorted along with their keys. -/
theorem sortedMembers_map {α β : Type} (f : α → β) (ms : List (String × α)) :
    sortedMembers (ms.map fun m => (m.1, f m.2)) =
      (sortedMembers ms).map fun m => (m.1, f m.2) := by
  refine (List.map_mergeSort ?_).symm
  intro a _ b _
  rfl

/-- An object is written member by member in the order of keys. -/
theorem canonical_object (ms : List (String × Json)) :
    canonical (object ms) =
      '\x7b' :: joined [',', ' '] ((sortedMembers ms).map memberText) ++ ['\x7d'] := by
  rw [canonical, canonicalMembers_eq_map, sortedMembers_map, List.map_map]
  rfl

/-- The kind of value that a text begins, by its first character. -/
def kindOf (c : Char) : ℕ :=
  if c = 'n' then 0
  else if c = 't' ∨ c = 'f' then 1
  else if c = '"' then 3
  else if c = '[' then 4
  else if c = '\x7b' then 5
  else 2

/-- The first character of a text tells the kind of the value, and is no delimiter. -/
theorem exists_canonical_eq_cons (value : Json) : ∃ c rest, canonical value = c :: rest ∧
    kindOf c = value.ctorIdx ∧ isDelimiter c = false := by
  cases value with
  | null => exact ⟨'n', "ull".toList, rfl, rfl, rfl⟩
  | bool b =>
    cases b
    · exact ⟨'f', "alse".toList, rfl, rfl, rfl⟩
    · exact ⟨'t', "rue".toList, rfl, rfl, rfl⟩
  | number n =>
    obtain ⟨c, rest, he, hc⟩ := exists_numberText_eq_cons n
    refine ⟨c, rest, he, ?_, not_isDelimiter_of_mem_numberText (he ▸ List.mem_cons_self ..)⟩
    have hne : c ≠ 'n' ∧ c ≠ 't' ∧ c ≠ 'f' ∧ c ≠ '"' ∧ c ≠ '[' ∧ c ≠ '\x7b' := by
      refine ⟨?_, ?_, ?_, ?_, ?_, ?_⟩ <;> rintro rfl <;> revert hc <;> decide
    obtain ⟨h1, h2, h3, h4, h5, h6⟩ := hne
    simp [kindOf, h1, h2, h3, h4, h5, h6, Json.ctorIdx]
  | string s => exact ⟨'"', _, rfl, rfl, rfl⟩
  | array xs => exact ⟨'[', _, canonical_array xs, rfl, rfl⟩
  | object ms => exact ⟨'\x7b', _, canonical_object ms, rfl, rfl⟩

/-- Values of one text are of one kind. -/
theorem ctorIdx_eq_of_canonical_append_eq {a b : Json} {r u : List Char}
    (h : canonical a ++ r = canonical b ++ u) : a.ctorIdx = b.ctorIdx := by
  obtain ⟨c, rest, ha, hc, -⟩ := exists_canonical_eq_cons a
  obtain ⟨d, rest', hb, hd, -⟩ := exists_canonical_eq_cons b
  rw [ha, hb] at h
  rw [← hc, ← hd, (List.cons.inj h).1]

end Writing

/-- Members in the order of their keys are the same members. -/
theorem sortedMembers_perm {α : Type} (ms : List (String × α)) : (sortedMembers ms).Perm ms :=
  List.mergeSort_perm ms _

/-- Objects whose members agree one by one in the order of keys are rearrangements. -/
theorem Rearranged.of_sortedMembers {ms ns : List (String × Json)}
    (h : List.Forall₂ (fun m n => m.1 = n.1 ∧ Rearranged m.2 n.2) (sortedMembers ms)
      (sortedMembers ns)) : Rearranged (.object ms) (.object ns) := by
  obtain ⟨zs, hzs, hperm⟩ := List.perm_comp_forall₂ (sortedMembers_perm ms).symm h
  obtain ⟨hkeys, hvalues⟩ := forall₂_members.mp hzs
  exact .object hkeys hvalues (hperm.trans (sortedMembers_perm ns))

/-- A text tells the value it begins with, up to the order of members, and where the value ends. -/
theorem rearranged_of_canonical_append_eq {a b : Json} {r u : List Char} (hr : IsContinuation r)
    (hu : IsContinuation u) (h : canonical a ++ r = canonical b ++ u) :
    Rearranged a b ∧ r = u := by
  induction a using Json.induction generalizing b r u with
  | null =>
    have hkind := ctorIdx_eq_of_canonical_append_eq h
    cases b with
    | null => exact ⟨.null, List.append_cancel_left h⟩
    | _ => cases hkind
  | bool x =>
    have hkind := ctorIdx_eq_of_canonical_append_eq h
    cases b with
    | bool y =>
      cases x <;> cases y
      · exact ⟨.bool false, List.append_cancel_left h⟩
      · cases (List.cons.inj h).1
      · cases (List.cons.inj h).1
      · exact ⟨.bool true, List.append_cancel_left h⟩
    | _ => cases hkind
  | number n =>
    have hkind := ctorIdx_eq_of_canonical_append_eq h
    cases b with
    | number k =>
      obtain ⟨htext, hrest⟩ := append_inj_of_isContinuation
        (fun _ hc => not_isDelimiter_of_mem_numberText hc)
        (fun _ hc => not_isDelimiter_of_mem_numberText hc) hr hu h
      rw [numberText_injective htext]
      exact ⟨.number k, hrest⟩
    | _ => cases hkind
  | string s =>
    have hkind := ctorIdx_eq_of_canonical_append_eq h
    cases b with
    | string t =>
      obtain ⟨rfl, hrest⟩ := quoted_append_inj h
      exact ⟨.string s, hrest⟩
    | _ => cases hkind
  | array xs ih =>
    have hkind := ctorIdx_eq_of_canonical_append_eq h
    cases b with
    | array ys =>
      rw [canonical_array, canonical_array] at h
      simp only [List.cons_append, List.append_assoc, List.nil_append, List.cons.injEq,
        true_and] at h
      obtain ⟨hitems, hrest⟩ := forall₂_of_joined_eq rfl (by decide)
        (fun x => (exists_canonical_eq_cons x).imp fun c => .imp fun _ hx => ⟨hx.1, hx.2.2⟩)
        (fun x hx y r u hr hu he => ih x hx hr hu he) h
      exact ⟨.array hitems, hrest⟩
    | _ => cases hkind
  | object ms ih =>
    have hkind := ctorIdx_eq_of_canonical_append_eq h
    cases b with
    | object ns =>
      rw [canonical_object, canonical_object] at h
      simp only [List.cons_append, List.append_assoc, List.nil_append, List.cons.injEq,
        true_and] at h
      have hmember : ∀ m ∈ sortedMembers ms, ∀ n r u, IsContinuation r → IsContinuation u →
          memberText m ++ r = memberText n ++ u → (m.1 = n.1 ∧ Rearranged m.2 n.2) ∧ r = u := by
        intro m hm n r u hr hu he
        simp only [memberText, List.append_assoc, List.cons_append] at he
        obtain ⟨hkey, he⟩ := quoted_append_inj he
        simp only [List.cons.injEq, true_and] at he
        obtain ⟨hvalue, hrest⟩ := ih m ((sortedMembers_perm ms).mem_iff.mp hm) hr hu he
        exact ⟨⟨hkey, hvalue⟩, hrest⟩
      obtain ⟨hmembers, hrest⟩ := forall₂_of_joined_eq rfl (by decide)
        (fun m => ⟨'"', _, rfl, rfl⟩) hmember h
      exact ⟨.of_sortedMembers hmembers, hrest⟩
    | _ => cases hkind

/-- Members that differ in their order have one order of keys. -/
theorem sortedMembers_eq_of_perm {α : Type} {ms ns : List (String × α)}
    (hkeys : (ms.map (·.1)).Nodup) (h : ms.Perm ns) : sortedMembers ms = sortedMembers ns :=
  mergeSort_eq_of_perm Prod.fst (fun _ ha _ hb he => List.inj_on_of_nodup_map hkeys ha hb he) h

/-- Rearrangements have one canonical form. -/
theorem Rearranged.canonical_eq {a b : Json} (h : Rearranged a b)
    (ha : a.hasDistinctKeys = true) : a.canonical = b.canonical := by
  induction a using Json.induction generalizing b with
  | null => cases h; rfl
  | bool x => cases h; rfl
  | number n => cases h; rfl
  | string s => cases h; rfl
  | array xs ih =>
    cases h with
    | array hitems =>
      have hdistinct := hasDistinctKeys_array.mp ha
      rw [canonical_array, canonical_array,
        map_eq_map_of_forall₂ (fun x hx _ hxy => ih x hx hxy (hdistinct x hx)) hitems]
  | object ms ih =>
    cases h with
    | object hkeys hvalues hperm =>
      rename_i zs ns
      obtain ⟨hnodup, hdistinct⟩ := hasDistinctKeys_object.mp ha
      have hwritten : canonicalMembers ms = canonicalMembers zs := by
        rw [canonicalMembers_eq_map, canonicalMembers_eq_map]
        refine map_eq_map_of_forall₂ ?_ (forall₂_members.mpr ⟨hkeys, hvalues⟩)
        rintro m hm n ⟨hkey, hvalue⟩
        rw [hkey, ih m hm hvalue (hdistinct m hm)]
      have horder : (canonicalMembers zs).Perm (canonicalMembers ns) := by
        rw [canonicalMembers_eq_map, canonicalMembers_eq_map]
        exact hperm.map _
      have hnodup' : ((canonicalMembers zs).map (·.1)).Nodup := by
        rw [canonicalMembers_eq_map, List.map_map]
        exact hkeys ▸ hnodup
      rw [canonical, canonical, hwritten, sortedMembers_eq_of_perm hnodup' horder]

/-- Values have one canonical form exactly when they differ in the order of members only. -/
theorem canonical_eq_iff {a b : Json} (ha : a.hasDistinctKeys = true) :
    canonical a = canonical b ↔ Rearranged a b := by
  constructor
  · intro h
    have hend : IsContinuation [] := nofun
    exact (rearranged_of_canonical_append_eq hend hend (congrArg (· ++ []) h)).1
  · intro h
    exact h.canonical_eq ha

end Json

end TagAudit
