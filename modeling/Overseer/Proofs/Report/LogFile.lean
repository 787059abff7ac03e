import Overseer.Proofs.Files.Parent
import Overseer.Report.LogFile

/-! ## What writing a log changes

A log that is written replaces what its file held, and the only other change to the tree is
directories that the path of the file lacked. When the log cannot be written, such directories are all
that is new, and a log that was written before is there as it was. -/

namespace Overseer.LogFile

open FileSystem

variable {f : LogFile} {order : Enumeration} {r : RunResult} {user : Access}
  {fs fs₁ fs₂ : FileSystem} {path : Path} {content other : Bytes} {place : Place}

/-! ### The directories of the file -/

/-- The paths of the directories that a file is in: the parent of its path, the parent of that, and
    so on, without the root and the empty path. -/
def parents (path : Path) : List Path := path.parent?.elim [] Path.ancestors

/-- Whether or not the directory of the file can be made, nothing else changes. -/
theorem grown_prepare (f : LogFile) (fs : FileSystem) (user : Access) :
    Grown (parents f.path) [] fs (f.prepare fs user).2 := by
  unfold prepare
  cases hdirectory : f.directory? with
  | none => exact .refl _ _
  | some p =>
    have hparent : f.path.parent? = some p := (Option.filter_eq_some_iff.1 hdirectory).1
    have hparents : parents f.path = p.ancestors := by
      rw [parents, hparent]
      rfl
    rw [hparents]
    exact grown_ensureChain user fs p.ancestors

/-- The directory of the file could be made exactly if it is there. -/
theorem prepare_eq_ok_iff :
    (f.prepare fs user).1 = .ok () ↔
      ∀ p, f.directory? = some p → (f.prepare fs user).2.isDirectory p = true := by
  unfold prepare
  cases hdirectory : f.directory? with
  | none => exact iff_of_true rfl nofun
  | some p =>
    obtain ⟨hparent, hne⟩ := Option.filter_eq_some_iff.1 hdirectory
    have hp : p ≠ [] := by simpa using hne
    simp only [Option.some.injEq, forall_eq']
    exact ensureDirectories_eq_ok_iff hparent hp

/-! ### A log that is written -/

/-- What a log that was written has changed: the content of the file at one place, which may not have
    been there, and directories of the path that were missing. -/
structure Logged (path : Path) (content : Bytes) (place : Place) (fs fs' : FileSystem) : Prop where
  writable : fs.Writable place
  leads : fs'.resolve path = .ok place
  holds : fs'.get? place = some (.file (fs.modeAt place) content)
  grown : Grown (parents path) [place] fs fs'

theorem Logged.read (h : Logged path content place fs fs₁) : fs₁.read path = .ok content :=
  read_eq_ok_iff.2 ⟨place, _, h.leads, h.holds⟩

theorem logged_write (h : fs.write path content user = .ok fs₁) :
    ∃ place, Logged path content place fs fs₁ := by
  obtain ⟨place, writable, rfl, hresolve⟩ := write_eq_ok h
  exact ⟨place, writable, hresolve, get?_set_self writable.ne_nil, grown_set _ _ _ _⟩

/-- Directories that were made before make no difference. -/
theorem Logged.of_grown (h : Logged path content place fs₁ fs₂)
    (grown : Grown (parents path) [] fs fs₁) : Logged path content place fs fs₂ := by
  have hsame : fs₁.get? place = fs.get? place := grown.get?_eq h.writable
  have hmode : fs₁.modeAt place = fs.modeAt place := by
    unfold modeAt
    rw [hsame]
  have writable : fs.Writable place := by
    intro n hn
    exact h.writable n (hsame.trans hn)
  exact ⟨writable, h.leads, by rw [h.holds, hmode],
    grown.trans h.grown (List.forall_mem_singleton.2 h.writable)⟩

/-- Directories that are made later make no difference. -/
theorem Logged.grown_later (h : Logged path content place fs fs₁)
    (grown : Grown (parents path) [] fs₁ fs₂) : Logged path content place fs fs₂ where
  writable := h.writable
  leads := grown.resolve (List.forall_mem_nil _) h.leads List.not_mem_nil
  holds := grown.kept place List.not_mem_nil _ h.holds
  grown := h.grown.trans grown (List.forall_mem_nil _)

/-- A log that is written later is in the same file. -/
theorem Logged.trans {place' : Place} (h : Logged path content place fs fs₁)
    (h' : Logged path other place' fs₁ fs₂) : Logged path other place fs fs₂ := by
  have writable := List.forall_mem_singleton.2 h'.writable
  obtain rfl : place' = place := by
    by_cases heq : place = place'
    · exact heq.symm
    · have hleads := h'.grown.resolve writable h.leads (by simpa using heq)
      rw [h'.leads] at hleads
      exact Except.ok.inj hleads
  have hmode : fs₁.modeAt place' = fs.modeAt place' := by
    unfold modeAt
    rw [h.holds]
    rfl
  exact ⟨h.writable, h'.leads, h'.holds.trans (by rw [hmode]),
    (h.grown.trans h'.grown writable).mono (List.Subset.refl _) (by simp)⟩

/-! ### One attempt -/

/-- What each way in which writing a log can end comes from. -/
theorem persist_cases (f : LogFile) (order : Enumeration) (r : RunResult) (fs : FileSystem)
    (user : Access) :
    (∃ cause fs', f.prepare fs user = (.error cause, fs') ∧
      f.persist order r fs user = (.error (.io cause), fs')) ∨
    (∃ cause fs', f.prepare fs user = (.ok (), fs') ∧
      fs'.write f.path (f.content order r) user = .error cause ∧
      f.persist order r fs user = (.error (.persistence f.path cause), fs')) ∨
    ∃ prepared fs', f.prepare fs user = (.ok (), prepared) ∧
      prepared.write f.path (f.content order r) user = .ok fs' ∧
      f.persist order r fs user = (.ok (), fs') := by
  unfold persist
  obtain ⟨outcome, prepared⟩ := f.prepare fs user
  cases outcome with
  | error cause => exact .inl ⟨cause, prepared, rfl, rfl⟩
  | ok =>
    dsimp only
    cases hwrite : prepared.write f.path (f.content order r) user with
    | error cause => exact .inr (.inl ⟨cause, prepared, rfl, hwrite, rfl⟩)
    | ok fs' => exact .inr (.inr ⟨prepared, fs', rfl, hwrite, rfl⟩)

/-- The cause of a failure is that of the step which failed, and that step was the last. -/
theorem persist_eq_error_iff {e : Failure} :
    f.persist order r fs user = (.error e, fs₁) ↔
      (∃ cause, e = .io cause ∧ f.prepare fs user = (.error cause, fs₁)) ∨
      ∃ cause, e = .persistence f.path cause ∧ f.prepare fs user = (.ok (), fs₁) ∧
        ∀ content, fs₁.write f.path content user = .error cause := by
  constructor
  · intro h
    rcases persist_cases f order r fs user with
      ⟨cause, fs', hprepare, hend⟩ | ⟨cause, fs', hprepare, hwrite, hend⟩ | ⟨_, fs', -, -, hend⟩
    · cases h.symm.trans hend
      exact .inl ⟨cause, rfl, hprepare⟩
    · cases h.symm.trans hend
      exact .inr ⟨cause, rfl, hprepare, write_eq_error hwrite⟩
    · cases h.symm.trans hend
  · unfold persist
    rintro (⟨cause, rfl, hprepare⟩ | ⟨cause, rfl, hprepare, hwrite⟩)
    · rw [hprepare]
    · rw [hprepare]
      dsimp only
      rw [hwrite]

theorem grown_of_persist_error {e : Failure} (h : f.persist order r fs user = (.error e, fs₁)) :
    Grown (parents f.path) [] fs fs₁ := by
  have hgrown := grown_prepare f fs user
  have hprepare : (f.prepare fs user).2 = fs₁ := by
    rcases persist_eq_error_iff.1 h with ⟨_, -, hprepare⟩ | ⟨_, -, hprepare, -⟩ <;> rw [hprepare]
  rwa [hprepare] at hgrown

theorem grown_persist_of_ne (h : (f.persist order r fs user).1 ≠ .ok ()) :
    Grown (parents f.path) [] fs (f.persist order r fs user).2 := by
  match hend : f.persist order r fs user, h with
  | (.error _, _), _ => exact grown_of_persist_error hend
  | (.ok (), _), h => exact absurd rfl h

theorem logged_of_persist (h : f.persist order r fs user = (.ok (), fs₁)) :
    ∃ place, Logged f.path (f.content order r) place fs fs₁ := by
  have hgrown := grown_prepare f fs user
  rcases persist_cases f order r fs user with
    ⟨_, _, -, hend⟩ | ⟨_, _, -, -, hend⟩ | ⟨prepared, _, hprepare, hwrite, hend⟩
  · cases h.symm.trans hend
  · cases h.symm.trans hend
  · cases h.symm.trans hend
    rw [hprepare] at hgrown
    obtain ⟨place, hlogged⟩ := logged_write hwrite
    exact ⟨place, hlogged.of_grown hgrown⟩

/-- A log that was written is what the file holds. -/
theorem read_of_persist (h : (f.persist order r fs user).1 = .ok ()) :
    (f.persist order r fs user).2.read f.path = .ok (f.content order r) := by
  obtain ⟨place, hlogged⟩ := logged_of_persist (Prod.ext h rfl)
  exact hlogged.read

/-! ### A series of attempts -/

/-- An attempt to write the log of a result to some path. Neither the user nor the order of findings
    need be the same each time. -/
structure Attempt where
  format : LogFormat
  order : Enumeration
  result : RunResult
  user : Access

namespace Attempt

def file (t : Attempt) (path : Path) : LogFile := ⟨path, t.format⟩

/-- What an attempt leaves behind: what the last attempt that succeeded has written, and the tree. -/
def after (path : Path) (before : Option Bytes × FileSystem) (t : Attempt) :
    Option Bytes × FileSystem :=
  match (t.file path).persist t.order t.result before.2 t.user with
  | (.ok (), fs) => (some ((t.file path).content t.order t.result), fs)
  | (.error _, fs) => (before.1, fs)

/-- What attempts made one after the other leave behind. -/
def afterAll (path : Path) (fs : FileSystem) (attempts : List Attempt) :
    Option Bytes × FileSystem :=
  attempts.foldl (after path) (none, fs)

/-- What attempts have changed: nothing but directories as long as none of them has succeeded. -/
def Effect (path : Path) (fs : FileSystem) : Option Bytes × FileSystem → Prop
  | (none, fs') => Grown (parents path) [] fs fs'
  | (some content, fs') => ∃ place, Logged path content place fs fs'

theorem Effect.after {reached : Option Bytes × FileSystem} (h : Effect path fs reached)
    (t : Attempt) : Effect path fs (after path reached t) := by
  obtain ⟨last, fs₁⟩ := reached
  unfold Attempt.after
  split
  · next fs₂ hend =>
    obtain ⟨place, hlogged⟩ := logged_of_persist hend
    cases last with
    | none => exact ⟨place, hlogged.of_grown h⟩
    | some content =>
      obtain ⟨first, hbefore⟩ := h
      exact ⟨first, hbefore.trans hlogged⟩
  · next fs₂ hend =>
    have hgrown := grown_of_persist_error hend
    cases last with
    | none => exact h.trans hgrown (List.forall_mem_nil _)
    | some content =>
      obtain ⟨place, hbefore⟩ := h
      exact ⟨place, hbefore.grown_later hgrown⟩

theorem effect_afterAll (path : Path) (fs : FileSystem) (attempts : List Attempt) :
    Effect path fs (afterAll path fs attempts) :=
  List.foldlRecOn attempts (after path) (Grown.refl (parents path) fs) fun _ h t _ => h.after t

end Attempt

/-! ### The effect -/

/-- A log that is written is all that its file holds then, in whatever order its findings come.
    Everything else is as it was, and what is new is that file and directories of its path that were
    missing. An attempt that fails adds no more than such directories, so that whatever could be read
    is read as before. Its error tells whether the directory of the file could not be made, which
    then is not there, or the file could not be opened. Of attempts made one after the other the last
    that succeeded is the one whose log is there. -/
theorem persist_effect (f : LogFile) (order : Enumeration) (r : RunResult) (user : Access)
    (fs : FileSystem) (attempts : List Attempt) :
    (∀ fs', f.persist order r fs user = (.ok (), fs') →
      fs'.read f.path = .ok (f.content order r) ∧
        ∃ place, Logged f.path (f.content order r) place fs fs') ∧
    (∀ e fs', f.persist order r fs user = (.error e, fs') →
      Grown (parents f.path) [] fs fs' ∧ ∀ p content, fs.read p = .ok content →
        fs'.read p = .ok content) ∧
    (∀ e fs', f.persist order r fs user = (.error e, fs') ↔
      (∃ cause, e = .io cause ∧ f.prepare fs user = (.error cause, fs')) ∨
      ∃ cause, e = .persistence f.path cause ∧ f.prepare fs user = (.ok (), fs') ∧
        ∀ content, fs'.write f.path content user = .error cause) ∧
    ((f.prepare fs user).1 = .ok () ↔
      ∀ p, f.directory? = some p → (f.prepare fs user).2.isDirectory p = true) ∧
    (∀ content fs', Attempt.afterAll f.path fs attempts = (some content, fs') →
      fs'.read f.path = .ok content ∧ ∃ place, Logged f.path content place fs fs') ∧
    (∀ fs', Attempt.afterAll f.path fs attempts = (none, fs') →
      Grown (parents f.path) [] fs fs') := by
  have heffect := Attempt.effect_afterAll f.path fs attempts
  refine ⟨?_, ?_, fun _ _ => persist_eq_error_iff, prepare_eq_ok_iff, ?_, ?_⟩
  · intro fs' h
    obtain ⟨place, hlogged⟩ := logged_of_persist h
    exact ⟨hlogged.read, place, hlogged⟩
  · intro e fs' h
    have hgrown := grown_of_persist_error h
    exact ⟨hgrown, fun _ _ hread => hgrown.read hread⟩
  · intro content fs' h
    rw [h] at heffect
    obtain ⟨place, hlogged⟩ := heffect
    exact ⟨hlogged.read, place, hlogged⟩
  · intro fs' h
    rw [h] at heffect
    exact heffect

/-- A directory of the path is made, and then the file of an earlier log may not be written. The
    findings come in the reverse of their own order. -/
theorem persist_effect_refused :
    let bytes (s : String) : Bytes := Utf8.encode s.toList
    let home : Place := [bytes "w"]
    let place : Place := bytes "run.log" :: home
    let old := bytes "ok\n17 none leak\n"
    let new := bytes "ok\n9 1 free\n9 none leak\n"
    let fs : FileSystem := ⟨[(home, .directory), (place, .file 0o600 old)], home⟩
    let made : FileSystem := fs.set (bytes "out" :: home) .directory
    let written := made.set place (.file 0o600 new)
    let f : LogFile := ⟨bytes "out/../run.log", .text⟩
    let order : Enumeration := ⟨fun s => s.toList.reverse, fun s => s.toList.reverse_perm⟩
    let r : RunResult := ⟨.ok, ⟨[⟨⟨9, by decide, by decide⟩, none, .leak⟩,
      ⟨⟨9, by decide, by decide⟩, some ⟨1, by decide, by decide⟩, .freeError⟩], by decide⟩⟩
    let refused : Access := fun q => q ≠ place
    let second : LogFile.Attempt := ⟨.json, .sorted, .ofStatus .timeout .empty, refused⟩
    (f.persist order r fs .full = (.ok (), written) ∧
      f.persist order r fs refused = (.error (.persistence f.path .permission), made) ∧
      fs.read (bytes "run.log") = .ok old ∧
      Attempt.afterAll f.path fs [⟨.text, order, r, .full⟩, second] = (some new, written) ∧
      Attempt.afterAll f.path fs [second] = (none, made)) ∧
    written.read f.path = .ok new ∧ (∃ place, Logged f.path new place fs written) ∧
    Grown (parents f.path) [] fs made ∧ made.read (bytes "run.log") = .ok old ∧
    (∃ cause, f.prepare fs refused = (.ok (), made) ∧
      ∀ content, made.write f.path content refused = .error cause) ∧
    made.isDirectory (bytes "out/..") = true := by
  intro bytes home place old new fs made written f order r refused second
  have first : f.persist order r fs .full = (.ok (), written) := by rfl
  have failed :
      f.persist order r fs refused = (.error (.persistence f.path .permission), made) := by
    rfl
  have readable : fs.read (bytes "run.log") = .ok old := by rfl
  have both :
      Attempt.afterAll f.path fs [⟨.text, order, r, .full⟩, second] = (some new, written) := by
    rfl
  have alone : Attempt.afterAll f.path fs [second] = (none, made) := by rfl
  obtain ⟨onOk, -, -, -, onSuccess, -⟩ :=
    persist_effect f order r .full fs [⟨.text, order, r, .full⟩, second]
  obtain ⟨-, onError, cause, prepared, -, onNone⟩ := persist_effect f order r refused fs [second]
  refine ⟨⟨first, failed, readable, both, alone⟩, (onOk _ first).1, (onSuccess _ _ both).2,
    onNone _ alone, (onError _ _ failed).2 _ _ readable, ?_⟩
  rcases (cause _ _).1 failed with ⟨_, heq, -⟩ | ⟨cause, -, hprepare, hwrite⟩
  · cases heq
  · rw [hprepare] at prepared
    exact ⟨⟨cause, hprepare, hwrite⟩, prepared.1 rfl _ rfl⟩

end Overseer.LogFile
