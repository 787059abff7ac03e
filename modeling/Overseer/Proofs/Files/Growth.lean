import Overseer.Proofs.Files.Writing

/-! ## How a tree grows

Making directories and writing one file leave alone what a tree has, but for the content of that
file. What is new in the tree is the file, and directories that paths given to the operations lead to.
This holds of every step, whether or not the steps before it succeeded, so it holds of all of them. -/

namespace Overseer.FileSystem

variable {fs fs₁ fs₂ : FileSystem} {place q : Place} {n : Node} {a b : List Place} {p : Path}
  {paths more : List Path} {user : Access}

/-! ### Growth -/

/-- What a tree has become: but for some places, all that was there is there still, and what is new
    is a directory that one of some paths leads to. -/
structure Grown (paths : List Path) (apart : List Place) (fs fs' : FileSystem) : Prop where
  workingDirectory : fs'.workingDirectory = fs.workingDirectory
  kept : Keeps apart fs fs'
  added : ∀ q ∉ apart, fs.get? q = none → ∀ n, fs'.get? q = some n →
    n = .directory ∧ ∃ p ∈ paths, fs'.resolve p = .ok q

theorem Grown.refl (paths : List Path) (fs : FileSystem) : Grown paths [] fs fs where
  workingDirectory := rfl
  kept := fun _ _ _ h => h
  added := fun _ _ hnone _ hsome => absurd (hnone.symm.trans hsome) nofun

theorem Grown.mono (h : Grown paths a fs fs₁) (hpaths : paths ⊆ more) (hplaces : a ⊆ b) :
    Grown more b fs fs₁ where
  workingDirectory := h.workingDirectory
  kept := fun q hq => h.kept q fun hmem => hq (hplaces hmem)
  added := by
    intro q hq hnone n hn
    obtain ⟨hdirectory, p, hp, hresolve⟩ := h.added q (fun hmem => hq (hplaces hmem)) hnone n hn
    exact ⟨hdirectory, p, hpaths hp, hresolve⟩

/-- A path that leads anywhere but to a place where a file may be written leads there afterwards
    too. -/
theorem Grown.resolve (h : Grown paths a fs fs₁) (writable : ∀ p ∈ a, fs.Writable p)
    (hresolve : fs.resolve p = .ok q) (hq : q ∉ a) : fs₁.resolve p = .ok q := by
  obtain ⟨hcheck, left, hwalk⟩ := resolve_eq_ok_iff.1 hresolve
  refine resolve_eq_ok_iff.2 ⟨hcheck, left, ?_⟩
  rw [h.workingDirectory]
  exact h.kept.walk writable hwalk hq

theorem Grown.trans (h : Grown paths a fs fs₁) (h' : Grown paths b fs₁ fs₂)
    (writable : ∀ p ∈ b, fs₁.Writable p) : Grown paths (a ++ b) fs fs₂ where
  workingDirectory := h'.workingDirectory.trans h.workingDirectory
  kept := by
    intro q hq n hn
    rw [List.mem_append, not_or] at hq
    exact h'.kept q hq.2 n (h.kept q hq.1 n hn)
  added := by
    intro q hq hnone n hn
    rw [List.mem_append, not_or] at hq
    cases hmiddle : fs₁.get? q with
    | none => exact h'.added q hq.2 hmiddle n hn
    | some m =>
      obtain ⟨rfl, p, hp, hresolve⟩ := h.added q hq.1 hnone m hmiddle
      have hthere := h'.kept q hq.2 _ hmiddle
      rw [hn] at hthere
      cases hthere
      exact ⟨rfl, p, hp, h'.resolve writable hresolve hq.2⟩

/-- A file has the content that it had when nothing but directories is new. -/
theorem Grown.read {content : Bytes} (h : Grown paths [] fs fs₁) (hread : fs.read p = .ok content) :
    fs₁.read p = .ok content := by
  obtain ⟨q, mode, hresolve, hfile⟩ := read_eq_ok_iff.1 hread
  have hleads := h.resolve (List.forall_mem_nil _) hresolve List.not_mem_nil
  exact read_eq_ok_iff.2 ⟨q, mode, hleads, h.kept q List.not_mem_nil _ hfile⟩

/-- At a place where a file may be written nothing is new when nothing but directories is. -/
theorem Grown.get?_eq (h : Grown paths [] fs fs₁) (writable : fs₁.Writable place) :
    fs₁.get? place = fs.get? place := by
  cases hbefore : fs.get? place with
  | some n => exact h.kept place List.not_mem_nil n hbefore
  | none =>
    cases hafter : fs₁.get? place with
    | none => rfl
    | some n =>
      obtain ⟨_, _, rfl⟩ := writable n hafter
      cases (h.added place List.not_mem_nil hbefore _ hafter).1

/-! ### One change -/

/-- Writing a file changes nothing else. -/
theorem grown_set (paths : List Path) (fs : FileSystem) (place : Place) (n : Node) :
    Grown paths [place] fs (fs.set place n) where
  workingDirectory := rfl
  kept := .set fs place n
  added := by
    intro q hq hnone m hm
    rw [get?_set_of_ne (List.ne_of_not_mem_cons hq), hnone] at hm
    cases hm

/-- A directory that is new is one that the path it was made for leads to. -/
theorem grown_set_directory (hnone : fs.get? place = none) (hplace : place ≠ [])
    (hresolve : (fs.set place .directory).resolve p = .ok place) :
    Grown [p] [] fs (fs.set place .directory) := by
  have hset := grown_set [p] fs place .directory
  refine ⟨rfl, fun q _ n hn => ?_, fun q _ hq n hn => ?_⟩
  · have hne : q ≠ place := by
      rintro rfl
      rw [hnone] at hn
      cases hn
    exact hset.kept q (by simpa using hne) n hn
  · by_cases hne : q = place
    · subst hne
      rw [get?_set_self hplace] at hn
      cases hn
      exact ⟨rfl, p, List.mem_singleton_self p, hresolve⟩
    · exact hset.added q (by simpa using hne) hq n hn

/-- Where something new is made: the names before the last lead to a directory, and the last one is
    not in it. -/
theorem vacancy_eq_ok (h : fs.vacancy p user = .ok place) :
    ∃ before name directory left, checkPath p = .ok () ∧ names p = before ++ [name] ∧
      fs.walk linkLimit (origin fs.workingDirectory p) before = .ok (directory, left) ∧
      fs.isDirectoryAt directory = true ∧ isDots name = false ∧ name.length ≤ nameLimit ∧
      place = name :: directory ∧ fs.get? place = none := by
  unfold vacancy at h
  split at h
  · cases h
  · cases h
  next before name hcheck hsplit =>
  split at h
  · cases h
  next directory left hwalk =>
  split at h
  · cases h
  next hdirectory =>
  split at h
  · cases h
  next hdots =>
  split at h
  · cases h
  next hlong =>
  split at h
  · cases h
  next hthere =>
  split at h
  · cases h
  cases h
  simp only [Bool.not_eq_true', Bool.not_eq_false, Bool.not_eq_true, Nat.not_lt]
    at hdirectory hdots hlong
  exact ⟨before, name, directory, left, hcheck, splitLast?_eq_some hsplit, hwalk, hdirectory, hdots,
    hlong, rfl, Option.not_isSome_iff_eq_none.1 hthere⟩

/-- The path leads to the directory once it is there. -/
theorem resolve_set_of_vacancy (h : fs.vacancy p user = .ok place) :
    (fs.set place .directory).resolve p = .ok place := by
  obtain ⟨before, name, directory, left, hcheck, hnames, hwalk, hdirectory, hdots, hlong, rfl,
    hnone⟩ := vacancy_eq_ok h
  have writable : fs.Writable (name :: directory) := .of_none hnone
  have hne := writable.ne_of_directory hdirectory
  have hnode : (fs.set (name :: directory) .directory).get? (name :: directory) = some .directory :=
    get?_set_self (List.cons_ne_nil name directory)
  have hthere : (fs.set (name :: directory) .directory).isDirectoryAt directory = true :=
    (isDirectoryAt_set_of_ne hne).trans hdirectory
  have hname := descend_name hthere hdots hlong
  rw [hnode] at hname
  have hplace : (fs.set (name :: directory) .directory).walk linkLimit
      (origin fs.workingDirectory p) (names p) = .ok (name :: directory, left) := by
    rw [hnames, walk_append (writable.walk_set hwalk hne)]
    exact walk_of_arrived hname
  have hmade : (fs.set (name :: directory) .directory).isDirectoryAt (name :: directory) = true := by
    rw [isDirectoryAt, hnode, decide_eq_true_eq]
  exact resolve_eq_ok_iff.2 ⟨hcheck, left, walk_steps hplace hmade⟩

theorem makeDirectory_eq_ok (h : fs.makeDirectory p user = .ok fs₁) :
    ∃ place, fs.vacancy p user = .ok place ∧ fs₁ = fs.set place .directory := by
  unfold makeDirectory at h
  cases hvacancy : fs.vacancy p user with
  | error e =>
    rw [hvacancy] at h
    cases h
  | ok place =>
    rw [hvacancy] at h
    cases h
    exact ⟨place, rfl, rfl⟩

theorem grown_makeDirectory (h : fs.makeDirectory p user = .ok fs₁) : Grown [p] [] fs fs₁ := by
  obtain ⟨place, hvacancy, rfl⟩ := makeDirectory_eq_ok h
  obtain ⟨_, _, _, _, _, _, _, _, _, _, rfl, hnone⟩ := vacancy_eq_ok hvacancy
  exact grown_set_directory hnone (List.cons_ne_nil _ _) (resolve_set_of_vacancy hvacancy)

/-! ### Making directories -/

theorem grown_ensureDirectory (h : fs.ensureDirectory p user = .ok fs₁) : Grown [p] [] fs fs₁ := by
  unfold ensureDirectory at h
  split at h
  · next hmade =>
    cases h
    exact grown_makeDirectory hmade
  · split at h
    · cases h
      exact .refl _ _
    · cases h
  · cases h

/-- However far making a directory and its parents comes, the tree only grows. -/
theorem grown_ensureChain (user : Access) (fs : FileSystem) (paths : List Path) :
    Grown paths [] fs (fs.ensureChain user paths).2 := by
  induction paths with
  | nil => exact .refl _ _
  | cons p parents ih =>
    have hparents : Grown (p :: parents) [] fs (fs.ensureChain user parents).2 :=
      ih.mono (List.subset_cons_self _ _) (List.Subset.refl _)
    have hpath {fs fs' : FileSystem} (h : fs.ensureDirectory p user = .ok fs') :
        Grown (p :: parents) [] fs fs' :=
      (grown_ensureDirectory h).mono (by simp) (List.Subset.refl _)
    unfold ensureChain
    split
    · next hmade => exact hpath hmade
    · split
      · next hfailed =>
        rw [hfailed] at hparents
        exact hparents
      · next hready =>
        rw [hready] at hparents
        split
        · next hmade => exact hparents.trans (hpath hmade) (List.forall_mem_nil _)
        · exact hparents
    · exact .refl _ _

end Overseer.FileSystem
