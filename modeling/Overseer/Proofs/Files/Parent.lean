import Mathlib.Data.List.TakeWhile
import Overseer.Proofs.Files.Growth
import Overseer.Proofs.Text.Cutting

/-! ## Directories and their parents

A path leads through its parent: where it leads to a directory the parent leads to one. So a directory
is there after making it and its parents was tried exactly if that succeeded. -/

namespace Overseer

namespace Path

variable {p q : Path}

theorem intercalate_pieces (p : Path) : List.intercalate [slash] p.pieces = p :=
  List.intercalate_splitOn slash

theorem intercalate_isPrefix (first : Bytes) (kept rest : List Bytes) :
    List.intercalate [slash] (first :: kept) <+:
      List.intercalate [slash] (first :: (kept ++ rest)) := by
  induction kept generalizing first with
  | nil =>
    cases rest with
    | nil => exact List.prefix_rfl
    | cons s rest =>
      rw [List.nil_append, List.intercalate_singleton, List.intercalate_cons_cons, List.append_assoc]
      exact List.prefix_append _ _
  | cons s kept ih =>
    rw [List.cons_append, List.intercalate_cons_cons, List.intercalate_cons_cons]
    exact (List.prefix_append_right_inj _).2 (ih s)

/-- What is in front of the void ones at the end. -/
theorem exists_of_dropWhile_reverse {xs ys : List Bytes} {x : Bytes}
    (h : xs.reverse.dropWhile isVoid = x :: ys) :
    ∃ zs, xs = ys.reverse ++ x :: zs ∧ isVoid x = false := by
  refine ⟨(xs.reverse.takeWhile isVoid).reverse, ?_, ?_⟩
  · have hsplit := List.takeWhile_append_dropWhile (p := isVoid) (l := xs.reverse)
    rw [h] at hsplit
    simpa using (congrArg List.reverse hsplit).symm
  · have hhead := List.head?_dropWhile_not isVoid xs.reverse
    rw [h] at hhead
    exact hhead

/-- The pieces of the parent are those before the last that means something, without the ones at
    their end that mean nothing. Only the root has an empty piece more. -/
theorem exists_of_parent? (h : p.parent? = some q) (hq : q ≠ []) :
    ∃ first kept rest, p.pieces = first :: (kept ++ rest) ∧ (∃ x ∈ rest, isVoid x = false) ∧
      (∀ x ∈ kept.getLast?, isVoid x = false) ∧
      (first = [] ∧ kept = [] ∧ q = [slash] ∨ q.pieces = first :: kept) := by
  unfold parent? at h
  split at h
  · cases h
  next first rest hpieces =>
  split at h
  · split at h
    · cases h
    · cases h
      exact absurd rfl hq
  next x before hdrop =>
  obtain ⟨behind, rfl, hx⟩ := exists_of_dropWhile_reverse hdrop
  have hbefore := List.takeWhile_append_dropWhile (p := isVoid) (l := before)
  have hlast := List.head?_dropWhile_not isVoid before
  generalize before.dropWhile isVoid = kept at h hbefore hlast
  have hrest : before.reverse ++ x :: behind =
      kept.reverse ++ ((before.takeWhile isVoid).reverse ++ x :: behind) := by
    rw [← List.append_assoc, ← List.reverse_append, hbefore]
  rw [hrest] at hpieces
  refine ⟨first, kept.reverse, _, hpieces, ⟨x, by simp, hx⟩, ?_, ?_⟩
  · intro s hs
    rw [List.getLast?_reverse] at hs
    rw [Option.mem_def.1 hs] at hlast
    exact hlast
  have hslash : ∀ s ∈ first :: kept.reverse, slash ∉ s := by
    intro s hs
    have hmem : s ∈ p.pieces := by
      rw [hpieces, ← List.cons_append]
      exact List.mem_append_left _ hs
    exact Text.notMem_of_mem_splitOn hmem
  split at h
  · next hkept =>
    rw [hkept] at hslash ⊢
    split at h
    · next hfirst =>
      cases h
      exact .inl ⟨List.isEmpty_iff.1 hfirst, rfl, rfl⟩
    · cases h
      exact .inr (List.splitOn_eq_singleton (hslash _ List.mem_cons_self))
  · cases h
    exact .inr (List.splitOn_intercalate slash hslash (List.cons_ne_nil _ _))

theorem parent?_isPrefix (h : p.parent? = some q) (hq : q ≠ []) : q <+: p := by
  obtain ⟨first, kept, rest, hpieces, ⟨x, hx, -⟩, -, hparent⟩ := exists_of_parent? h hq
  rw [← intercalate_pieces p, hpieces]
  rcases hparent with ⟨rfl, rfl, rfl⟩ | hparent
  · obtain ⟨s, rest, rfl⟩ := List.exists_cons_of_ne_nil (List.ne_nil_of_mem hx)
    rw [List.nil_append, List.intercalate_cons_cons]
    exact List.prefix_append _ _
  · rw [← intercalate_pieces q, hparent]
    exact intercalate_isPrefix first kept rest

/-- A parent that has none is the root. -/
theorem eq_root_of_parent?_eq_none (h : p.parent? = some q) (hq : q ≠ [])
    (hnone : q.parent? = none) : q = [slash] := by
  obtain ⟨first, kept, rest, -, -, hlast, ⟨-, -, hroot⟩ | hparent⟩ := exists_of_parent? h hq
  · exact hroot
  exfalso
  unfold parent? at hnone
  rw [hparent] at hnone
  rcases kept.eq_nil_or_concat with rfl | ⟨kept, x, rfl⟩
  · have hfirst : first = [] := by simpa using hnone
    rw [hfirst] at hparent
    have hnil := intercalate_pieces q
    rw [hparent] at hnil
    exact hq hnil.symm
  · have hx : isVoid x = false := hlast x (by simp)
    have hdrop : (kept.concat x).reverse.dropWhile isVoid = x :: kept.reverse := by
      simp [hx]
    simp only [hdrop] at hnone
    split at hnone
    · split at hnone <;> cases hnone
    · cases hnone

end Path

namespace FileSystem

variable {p q : Path} {fs fs₁ : FileSystem} {user : Access} {parents : List Path}

theorem names_isPrefix_steps (p : Path) : names p <+: steps p := by
  unfold steps
  split
  · exact List.prefix_append _ _
  · exact List.prefix_rfl

/-- Following a path begins with the names of its parent. -/
theorem exists_steps_of_parent? (h : p.parent? = some q) (hq : q ≠ []) :
    ∃ x more, steps p = names q ++ x :: more := by
  obtain ⟨first, kept, rest, hpieces, ⟨x, hx, hvoid⟩, -, hparent⟩ := Path.exists_of_parent? h hq
  have hnames : names q = (first :: kept).filter fun s => !s.isEmpty := by
    rcases hparent with ⟨rfl, rfl, rfl⟩ | hparent
    · rfl
    · rw [names, hparent]
  have hp : names p = names q ++ rest.filter fun s => !s.isEmpty := by
    rw [names, hpieces, hnames, ← List.cons_append, List.filter_append]
  have hmem : x ∈ rest.filter fun s => !s.isEmpty := by
    rw [Path.isVoid, Bool.or_eq_false_iff] at hvoid
    exact List.mem_filter.2 ⟨hx, by simp [hvoid.1]⟩
  obtain ⟨y, more, hmore⟩ := List.exists_cons_of_ne_nil (List.ne_nil_of_mem hmem)
  obtain ⟨last, hlast⟩ := names_isPrefix_steps p
  refine ⟨y, more ++ last, ?_⟩
  rw [← hlast, hp, hmore, List.append_assoc, List.cons_append]

/-! ### Directories that are there -/

theorem checkPath_of_isPrefix (h : q <+: p) (hq : q ≠ []) (hcheck : checkPath p = .ok ()) :
    checkPath q = .ok () := by
  obtain ⟨rest, rfl⟩ := h
  obtain ⟨hnul, -, hshort⟩ := checkPath_eq_ok_iff.1 hcheck
  rw [List.length_append] at hshort
  exact checkPath_eq_ok_iff.2 ⟨fun hmem => hnul (List.mem_append_left _ hmem), hq,
    Nat.lt_of_le_of_lt (Nat.le_add_right _ _) hshort⟩

/-- Where there is a directory there is its parent. -/
theorem isDirectory_of_parent? (h : p.parent? = some q) (hq : q ≠ [])
    (hp : fs.isDirectory p = true) : fs.isDirectory q = true := by
  have hbegins := Path.parent?_isPrefix h hq
  obtain ⟨x, more, hsteps⟩ := exists_steps_of_parent? h hq
  obtain ⟨place, hresolve, -⟩ := isDirectory_iff.1 hp
  obtain ⟨hcheck, left, hwalk⟩ := resolve_eq_ok_iff.1 hresolve
  rw [hsteps] at hwalk
  obtain ⟨middle, budget, hfirst, hrest⟩ := walk_append_eq_ok hwalk
  have hmiddle := (walk_cons_eq_ok hrest).1
  have horigin : origin fs.workingDirectory q = origin fs.workingDirectory p := by
    obtain ⟨rest, rfl⟩ := hbegins
    obtain ⟨c, q, rfl⟩ := List.exists_cons_of_ne_nil hq
    rfl
  rw [← horigin] at hfirst
  exact isDirectory_iff.2 ⟨middle, resolve_eq_ok_iff.2
    ⟨checkPath_of_isPrefix hbegins hq hcheck, budget, walk_steps hfirst hmiddle⟩, hmiddle⟩

/-- Nothing new can be made where there is a directory. -/
theorem vacancy_of_isDirectory (h : fs.isDirectory p = true) :
    fs.vacancy p user = .error .exists := by
  obtain ⟨place, hresolve, -⟩ := isDirectory_iff.1 h
  obtain ⟨hcheck, left, hwalk⟩ := resolve_eq_ok_iff.1 hresolve
  unfold vacancy
  rw [hcheck]
  cases hsplit : splitLast? (names p) with
  | none => rfl
  | some split =>
    obtain ⟨before, name⟩ := split
    obtain ⟨last, hlast⟩ := names_isPrefix_steps p
    rw [← hlast, splitLast?_eq_some hsplit, List.append_assoc] at hwalk
    obtain ⟨directory, budget, hbefore, hrest⟩ := walk_append_eq_ok hwalk
    obtain ⟨hdirectory, hname⟩ := walk_cons_eq_ok hrest
    dsimp only
    rw [hbefore]
    dsimp only
    rw [hdirectory]
    rcases hname with hdots | ⟨hlong, hthere⟩
    · simp [hdots]
    · simp [hthere, Nat.not_lt.2 hlong]

/-- A directory that is there is not made again. -/
theorem ensureDirectory_of_isDirectory (h : fs.isDirectory p = true) :
    fs.ensureDirectory p user = .ok fs := by
  have hmake : fs.makeDirectory p user = .error .exists := by
    rw [makeDirectory, vacancy_of_isDirectory h]
    rfl
  rw [ensureDirectory, hmake]
  simp [h]

theorem isDirectory_of_ensureDirectory (h : fs.ensureDirectory p user = .ok fs₁) :
    fs₁.isDirectory p = true := by
  unfold ensureDirectory at h
  split at h
  · next hmade =>
    cases h
    obtain ⟨place, hvacancy, rfl⟩ := makeDirectory_eq_ok hmade
    obtain ⟨_, _, _, _, _, _, _, _, _, _, rfl, -⟩ := vacancy_eq_ok hvacancy
    refine isDirectory_iff.2 ⟨_, resolve_set_of_vacancy hvacancy, ?_⟩
    rw [isDirectoryAt, get?_set_self (List.cons_ne_nil _ _), decide_eq_true_eq]
  · split at h
    · next hthere =>
      cases h
      exact hthere
    · cases h
  · cases h

/-! ### Making parents -/

/-- A directory is there after trying to make it and its parents exactly if that succeeded, as long as
    it is not there when the parents could not be made. -/
theorem ensureChain_cons_eq_ok_iff
    (linked : (fs.ensureChain user parents).1 ≠ .ok () →
      (fs.ensureChain user parents).2.isDirectory p = false) :
    (fs.ensureChain user (p :: parents)).1 = .ok () ↔
      (fs.ensureChain user (p :: parents)).2.isDirectory p = true := by
  have missing {fs : FileSystem} {e : OsError} (h : fs.ensureDirectory p user = .error e) :
      fs.isDirectory p = false := by
    rw [← Bool.not_eq_true]
    intro hthere
    cases (ensureDirectory_of_isDirectory hthere).symm.trans h
  unfold ensureChain
  split
  · next hmade => exact iff_of_true rfl (isDirectory_of_ensureDirectory hmade)
  · split
    · next hfailed =>
      rw [hfailed] at linked
      exact iff_of_false (by simp) (by simpa using linked (by simp))
    · split
      · next hmade => exact iff_of_true rfl (isDirectory_of_ensureDirectory hmade)
      · next hfailed => exact iff_of_false (by simp) (by simpa using missing hfailed)
  · next hfailed => exact iff_of_false (by simp) (by simpa using missing hfailed)

/-- Whether a directory could be made, with the parents that it lacked, can be seen from the tree. -/
theorem ensureAncestors_eq_ok_iff (fuel : Nat) (h : p.parent? = some q) :
    (fs.ensureChain user (p.ancestorsUpTo (fuel + 1))).1 = .ok () ↔
      (fs.ensureChain user (p.ancestorsUpTo (fuel + 1))).2.isDirectory p = true := by
  induction fuel generalizing p q with
  | zero =>
    rw [Path.ancestorsUpTo, h]
    exact ensureChain_cons_eq_ok_iff fun hfailed => absurd rfl hfailed
  | succ fuel ih =>
    rw [Path.ancestorsUpTo, h]
    refine ensureChain_cons_eq_ok_iff fun hfailed => ?_
    cases hparent : q.parent? with
    | none =>
      rw [Path.ancestorsUpTo, hparent] at hfailed
      exact absurd rfl hfailed
    | some r =>
      have hq : q ≠ [] := by
        rintro rfl
        cases hparent
      rw [← Bool.not_eq_true]
      exact fun hp => hfailed ((ih hparent).2 (isDirectory_of_parent? h hq hp))

theorem isDirectory_root (fs : FileSystem) : fs.isDirectory [Path.slash] = true := rfl

/-- The parent of a path is a directory after trying to make it exactly if that succeeded. -/
theorem ensureDirectories_eq_ok_iff (h : p.parent? = some q) (hq : q ≠ []) :
    (fs.ensureDirectories q user).1 = .ok () ↔
      (fs.ensureDirectories q user).2.isDirectory q = true := by
  unfold ensureDirectories Path.ancestors
  cases hparent : q.parent? with
  | some r => exact ensureAncestors_eq_ok_iff _ hparent
  | none =>
    obtain rfl := Path.eq_root_of_parent?_eq_none h hq hparent
    rw [Path.ancestorsUpTo, hparent]
    exact iff_of_true rfl (isDirectory_root fs)

end FileSystem

end Overseer
