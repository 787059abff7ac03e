import Overseer.Finding.Basic

/-! ## Sets of findings

A set lists its findings in their order, each once, so that two sets with the same members are
equal. -/

namespace Overseer

/-- A finite set of findings. -/
structure FindingSet where
  toList : List Finding
  sorted : toList.Pairwise Finding.Before := by decide
deriving DecidableEq

namespace FindingSet

/-- The set without members. -/
def empty : FindingSet := ⟨[], .nil⟩

instance : Membership Finding FindingSet := ⟨fun s f => f ∈ s.toList⟩

/-- A sorted list with `f` at its place, or unchanged if it has `f`. -/
def insertSorted (f : Finding) : List Finding → List Finding
  | [] => [f]
  | g :: gs =>
    if f.Before g then f :: g :: gs
    else if f = g then g :: gs
    else g :: insertSorted f gs

theorem mem_insertSorted {f g : Finding} {l : List Finding} :
    g ∈ insertSorted f l ↔ g = f ∨ g ∈ l := by
  fun_induction insertSorted f l with
  | case1 => simp
  | case2 => simp
  | case3 => simp_all
  | case4 h t _ _ ih => simp [ih, or_left_comm]

theorem sorted_insertSorted {f : Finding} {l : List Finding} (h : l.Pairwise Finding.Before) :
    (insertSorted f l).Pairwise Finding.Before := by
  fun_induction insertSorted f l with
  | case1 => simp
  | case2 g gs hb =>
    refine .cons (fun x hx => ?_) h
    rcases List.mem_cons.1 hx with rfl | hx
    · exact hb
    · exact hb.trans (List.rel_of_pairwise_cons h hx)
  | case3 => exact h
  | case4 g gs hb hne ih =>
    refine .cons (fun x hx => ?_) (ih (List.Pairwise.of_cons h))
    rcases mem_insertSorted.1 hx with rfl | hx
    · exact ((Finding.before_trichotomy x g).resolve_left hb).resolve_left hne
    · exact List.rel_of_pairwise_cons h hx

/-- The set with one more member. -/
def insert (s : FindingSet) (f : Finding) : FindingSet :=
  ⟨insertSorted f s.toList, sorted_insertSorted s.sorted⟩

/-- The set with the members of a list added. -/
def insertAll (s : FindingSet) (fs : List Finding) : FindingSet := fs.foldl insert s

/-- The set of the members of a list. -/
def ofList (fs : List Finding) : FindingSet := empty.insertAll fs

/-- The members of either set. -/
def union (s t : FindingSet) : FindingSet := s.insertAll t.toList

/-- How many members a set has. -/
def size (s : FindingSet) : Nat := s.toList.length

def isEmpty (s : FindingSet) : Bool := s.toList.isEmpty

-- ---------------------------------------------------------------------------
-- Members
-- ---------------------------------------------------------------------------

theorem mem_toList {f : Finding} {s : FindingSet} : f ∈ s.toList ↔ f ∈ s := Iff.rfl

@[simp] theorem not_mem_empty {f : Finding} : ¬ f ∈ empty := List.not_mem_nil

@[simp] theorem mem_insert {f g : Finding} {s : FindingSet} : g ∈ s.insert f ↔ g = f ∨ g ∈ s :=
  mem_insertSorted

@[simp] theorem mem_insertAll {f : Finding} {s : FindingSet} {fs : List Finding} :
    f ∈ s.insertAll fs ↔ f ∈ s ∨ f ∈ fs := by
  induction fs generalizing s with
  | nil => simp [insertAll]
  | cons g gs ih =>
    have : s.insertAll (g :: gs) = (s.insert g).insertAll gs := rfl
    simp only [this, ih, mem_insert, List.mem_cons]
    constructor
    · rintro ((h | h) | h)
      · exact .inr (.inl h)
      · exact .inl h
      · exact .inr (.inr h)
    · rintro (h | h | h)
      · exact .inl (.inr h)
      · exact .inl (.inl h)
      · exact .inr h

@[simp] theorem mem_ofList {f : Finding} {fs : List Finding} : f ∈ ofList fs ↔ f ∈ fs := by
  simp [ofList]

@[simp] theorem mem_union {f : Finding} {s t : FindingSet} : f ∈ s.union t ↔ f ∈ s ∨ f ∈ t := by
  simp [union, mem_toList]

/-- Sorted lists with the same members are equal. -/
theorem eq_of_sorted {l m : List Finding} (hl : l.Pairwise Finding.Before)
    (hm : m.Pairwise Finding.Before) (h : ∀ f, f ∈ l ↔ f ∈ m) : l = m := by
  induction l generalizing m with
  | nil =>
    cases m with
    | nil => rfl
    | cons g m => exact absurd ((h g).2 List.mem_cons_self) List.not_mem_nil
  | cons f l ih =>
    cases m with
    | nil => exact absurd ((h f).1 List.mem_cons_self) List.not_mem_nil
    | cons g m =>
      have hfg : f = g := by
        rcases List.mem_cons.1 ((h f).1 List.mem_cons_self) with hf | hf
        · exact hf
        · rcases List.mem_cons.1 ((h g).2 List.mem_cons_self) with hg | hg
          · exact hg.symm
          · exact absurd ((List.rel_of_pairwise_cons hl hg).trans (List.rel_of_pairwise_cons hm hf))
              (Finding.before_irrefl f)
      subst hfg
      congr 1
      refine ih (List.Pairwise.of_cons hl) (List.Pairwise.of_cons hm) fun x => ?_
      constructor
      · intro hx
        rcases List.mem_cons.1 ((h x).1 (List.mem_cons_of_mem _ hx)) with rfl | hx'
        · exact absurd (List.rel_of_pairwise_cons hl hx) (Finding.before_irrefl x)
        · exact hx'
      · intro hx
        rcases List.mem_cons.1 ((h x).2 (List.mem_cons_of_mem _ hx)) with rfl | hx'
        · exact absurd (List.rel_of_pairwise_cons hm hx) (Finding.before_irrefl x)
        · exact hx'

/-- A set has at most one member if any two of them are the same. -/
theorem size_le_one {s : FindingSet} (h : ∀ f ∈ s, ∀ g ∈ s, f = g) : s.size ≤ 1 := by
  obtain ⟨l, sorted⟩ := s
  match l, sorted with
  | [], _ => exact Nat.zero_le 1
  | [_], _ => exact Nat.le_refl 1
  | f :: g :: l, sorted =>
    have heq : f = g :=
      h f List.mem_cons_self g (List.mem_cons_of_mem f List.mem_cons_self)
    have hlt : f.Before g := List.rel_of_pairwise_cons sorted List.mem_cons_self
    exact absurd (heq ▸ hlt) (Finding.before_irrefl f)

/-- Sets with the same members are equal. -/
theorem ext {s t : FindingSet} (h : ∀ f, f ∈ s ↔ f ∈ t) : s = t := by
  have := eq_of_sorted s.sorted t.sorted h
  cases s; cases t; cases this; rfl

end FindingSet

-- ---------------------------------------------------------------------------
-- Enumerations
-- ---------------------------------------------------------------------------

/-- An order in which the findings of each set come when nothing asks for their own one. -/
structure Enumeration where
  list : FindingSet → List Finding
  perm : ∀ s, (list s).Perm s.toList

/-- The findings in their own order. -/
def Enumeration.sorted : Enumeration := ⟨FindingSet.toList, fun _ => .refl _⟩

end Overseer
