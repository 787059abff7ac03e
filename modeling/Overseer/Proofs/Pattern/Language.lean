import Mathlib.Data.Option.NAry
import Overseer.Proofs.Pattern.Search
import Overseer.Proofs.Text.Cutting

/-! ## The language of a pattern

Many patterns match a few fixed texts only, which can be listed. And unless a pattern has anchors,
it does not matter where in a text it matches. -/

namespace Overseer.Pattern

variable {p q : Pattern} {before before' mid rest rest' s : Text} {ts : List Text} {k : CharSet}
  {c : Char}

/-! ### Patterns of fixed texts -/

/-- The character of a set that is written with one. -/
def only? : CharSet → Option Char
  | .range low high => if low = high then some low else none
  | _ => none

theorem eq_single_of_only? (h : only? k = some c) : k = .single c := by
  unfold only? at h
  split at h
  · next low high =>
    split at h
    · next heq =>
      cases h
      rw [heq, CharSet.single]
    · cases h
  · cases h

/-- All texts that a pattern matches, if it is made of single characters, sequences and
    alternatives. -/
def texts? : Pattern → Option (List Text)
  | .empty => some [[]]
  | .oneOf k => (only? k).map fun c => [[c]]
  | .seq p q => Option.map₂ (fun ss ts => ss.flatMap fun s => ts.map (s ++ ·)) p.texts? q.texts?
  | .alt p q => Option.map₂ (· ++ ·) p.texts? q.texts?
  | _ => none

theorem matches_iff_mem_texts (h : p.texts? = some ts) : Matches p before mid rest ↔ mid ∈ ts := by
  induction p generalizing before mid rest ts with
  | empty =>
    cases h
    rw [matches_empty, List.mem_singleton]
  | oneOf k =>
    obtain ⟨c, hc, rfl⟩ := Option.map_eq_some_iff.1 h
    rw [eq_single_of_only? hc, matches_oneOf]
    simp
  | seq p q ihp ihq =>
    obtain ⟨ss, us, hp, hq, rfl⟩ := Option.map₂_eq_some_iff.1 h
    simp only [matches_seq, ihp hp, ihq hq, List.mem_flatMap, List.mem_map]
    constructor
    · rintro ⟨s, t, rfl, hs, ht⟩
      exact ⟨s, hs, t, ht, rfl⟩
    · rintro ⟨s, hs, t, ht, rfl⟩
      exact ⟨s, t, rfl, hs, ht⟩
  | alt p q ihp ihq =>
    obtain ⟨ss, us, hp, hq, rfl⟩ := Option.map₂_eq_some_iff.1 h
    rw [matches_alt, ihp hp, ihq hq, List.mem_append]
  | many _ _ | atLeastOne _ _ | anchor _ => cases h

/-- A pattern of fixed texts occurs where one of them stands. -/
theorem occurs_iff_of_texts (h : p.texts? = some ts) : p.Occurs s ↔ ∃ t ∈ ts, t <:+: s := by
  unfold Occurs
  simp only [matches_iff_mem_texts h]
  constructor
  · rintro ⟨before, t, rest, rfl, ht⟩
    exact ⟨t, ht, before, rest, rfl⟩
  · rintro ⟨t, ht, before, rest, rfl⟩
    exact ⟨before, t, rest, rfl, ht⟩

theorem texts?_literal (s : Text) : (literal s).texts? = some [s] := by
  induction s with
  | nil => rfl
  | cons c s ih =>
    have hc : (oneOf (.single c)).texts? = some [[c]] := by
      simp [texts?, only?, CharSet.single]
    cases s with
    | nil => exact hc
    | cons d s =>
      have hseq : literal (c :: d :: s) = .seq (.oneOf (.single c)) (literal (d :: s)) := rfl
      rw [hseq, texts?, hc, ih]
      rfl

/-! ### Sequences and repetitions -/

/-- A fixed text, and then a pattern. -/
def behind (s : Text) (p : Pattern) : Pattern := s.foldr (fun c q => .seq (.oneOf (.single c)) q) p

theorem matches_behind :
    Matches (behind s p) before mid rest ↔ ∃ t, mid = s ++ t ∧ Matches p (before ++ s) t rest := by
  induction s generalizing before mid with
  | nil => simp [behind]
  | cons c s ih =>
    change Matches (.seq (.oneOf (.single c)) (behind s p)) before mid rest ↔ _
    simp only [matches_seq, matches_oneOf, CharSet.contains_single, ih]
    constructor
    · rintro ⟨_, _, rfl, ⟨_, rfl, rfl⟩, t, rfl, ht⟩
      exact ⟨t, rfl, by simpa using ht⟩
    · rintro ⟨t, rfl, ht⟩
      exact ⟨[c], s ++ t, rfl, ⟨c, rfl, rfl⟩, t, rfl, by simpa using ht⟩

/-- A repetition of single characters. -/
theorem matches_many_oneOf :
    Matches (.many (.oneOf k)) before mid rest ↔ ∀ c ∈ mid, k.contains c = true := by
  induction mid generalizing before with
  | nil => exact iff_of_true .manyNil nofun
  | cons c mid ih =>
    rw [matches_many_cons, List.forall_mem_cons]
    simp only [matches_oneOf]
    constructor
    · rintro ⟨_, _, rfl, ⟨d, hd, hk⟩, hmany⟩
      obtain ⟨rfl, rfl⟩ := List.cons.inj hd
      exact ⟨hk, ih.1 hmany⟩
    · rintro ⟨hc, hmid⟩
      exact ⟨[], mid, rfl, ⟨c, rfl, hc⟩, ih.2 hmid⟩

/-! ### Patterns without anchors -/

def anchorFree : Pattern → Bool
  | .empty | .oneOf _ => true
  | .seq p q | .alt p q => p.anchorFree && q.anchorFree
  | .many p | .atLeastOne p => p.anchorFree
  | .anchor _ => false

/-- What stands around a stretch matters only for anchors. -/
theorem Matches.move (h : Matches p before mid rest) (free : p.anchorFree = true) :
    Matches p before' mid rest' := by
  induction h generalizing before' rest' with
  | empty => exact .empty
  | oneOf hc => exact .oneOf hc
  | seq _ _ ihp ihq =>
    obtain ⟨hp, hq⟩ := Bool.and_eq_true_iff.1 free
    exact .seq (ihp hp) (ihq hq)
  | altLeft _ ih => exact .altLeft (ih (Bool.and_eq_true_iff.1 free).1)
  | altRight _ ih => exact .altRight (ih (Bool.and_eq_true_iff.1 free).2)
  | manyNil => exact .manyNil
  | manyCons _ _ ihp ihq => exact .manyCons (ihp free) (ihq free)
  | atLeastOne _ _ ihp ihq => exact .atLeastOne (ihp free) (ihq free)
  | anchor _ => cases free

/-- Whether a pattern begins with a given character. -/
def opensWith (c : Char) : Pattern → Bool
  | .seq (.oneOf k) _ => only? k = some c
  | _ => false

theorem Matches.eq_cons (h : Matches p before mid rest) (opens : p.opensWith c = true) :
    ∃ t, mid = c :: t := by
  unfold opensWith at opens
  split at opens
  · next k q =>
    obtain ⟨s, t, rfl, hk, -⟩ := matches_seq.1 h
    obtain ⟨d, rfl, hd⟩ := matches_oneOf.1 hk
    rw [eq_single_of_only? (of_decide_eq_true opens), CharSet.contains_single] at hd
    exact ⟨t, by rw [hd]; rfl⟩
  · cases opens

/-- A pattern that begins with a character cannot occur before the first place of it. -/
theorem occurs_append_cons_iff (opens : p.opensWith c = true) (free : p.anchorFree = true)
    (hs : c ∉ s) : p.Occurs (s ++ c :: rest) ↔ p.Occurs (c :: rest) := by
  constructor
  · rintro ⟨before, mid, after, h, hmatch⟩
    obtain ⟨t, rfl⟩ := hmatch.eq_cons opens
    rw [List.append_assoc, List.cons_append] at h
    obtain ⟨r, -, hrest⟩ := Text.exists_append_of_append_cons hs h
    exact ⟨r, c :: t, after, by simp [hrest], hmatch.move free⟩
  · rintro ⟨before, mid, after, h, hmatch⟩
    exact ⟨s ++ before, mid, after, by simp [h], hmatch.move free⟩

end Overseer.Pattern
