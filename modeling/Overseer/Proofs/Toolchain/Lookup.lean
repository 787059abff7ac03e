import Overseer.Proofs.Files.Writing
import Overseer.Proofs.Text.Cutting
import Overseer.Toolchain.Probe

/-! ## The rule of a shell

A shell takes a name with a slash in it as a path and looks for any other on the search path. The
probe counts the components of the name instead. The two differ for names such as `x/`, `./` and `/`,
which have a slash and one component at most; but these lead to directories only, so whether they
are taken as they are or looked for, no program is found. -/

namespace Overseer

/-! ### Names with one component -/

namespace Path

variable {p a b d : Path} {rest : List Bytes}

/-- A path with a slash, cut at the last one. -/
theorem exists_last_slash (h : slash ∈ p) : ∃ a b, p = a ++ slash :: b ∧ slash ∉ b := by
  obtain ⟨b, a, hp, hb⟩ := List.eq_append_cons_of_mem (List.mem_reverse.2 h)
  refine ⟨a.reverse, b.reverse, ?_, by simpa using hb⟩
  rw [← p.reverse_reverse, hp]
  simp

theorem pieces_append_slash (hb : slash ∉ b) : (a ++ slash :: b).pieces = a.pieces ++ [b] := by
  unfold pieces
  rw [List.splitOn_append_cons_self, List.splitOn_eq_singleton hb]

theorem isAbsolute_of_plain (h : slash ∉ p) : p.isAbsolute = false := by
  rw [isAbsolute, decide_eq_false_iff_not]
  exact fun hhead => h (List.mem_of_head? hhead)

theorem endsInSlash_of_plain (h : slash ∉ p) : p.endsInSlash = false := by
  rw [endsInSlash, decide_eq_false_iff_not]
  exact fun hlast => h (List.mem_of_getLast? hlast)

theorem length_leading_le (first : Bytes) : (leading first).length ≤ 1 := by
  unfold leading
  repeat' split
  all_goals simp

theorem leading_ne_nil {first : Bytes} (h : first ≠ []) : leading first ≠ [] := by
  unfold leading
  split <;> simp [h]

/-- A path without a slash has one component at most. -/
theorem length_components_le (h : slash ∉ p) : p.components.length ≤ 1 := by
  have hpieces : p.pieces = [p] := List.splitOn_eq_singleton h
  unfold components
  rw [hpieces, isAbsolute_of_plain h]
  simpa using length_leading_le p

/-- A path with an empty first piece is absolute. -/
theorem isAbsolute_append_slash (h : a.pieces = [] :: rest) :
    (a ++ slash :: b).isAbsolute = true := by
  cases rest with
  | nil =>
    obtain ⟨-, rfl⟩ := Text.splitOn_eq_singleton_iff.1 h
    rfl
  | cons s rest =>
    obtain ⟨r, -, rfl, -⟩ := Text.splitOn_eq_cons_cons_iff.1 h
    rfl

/-- If a path with a slash has one component only, nothing that means anything follows the slash. -/
theorem isVoid_of_length_components_le (hb : slash ∉ b)
    (h : (a ++ slash :: b).components.length ≤ 1) : isVoid b = true := by
  obtain ⟨first, rest, hfirst⟩ := List.exists_cons_of_ne_nil (List.splitOn_ne_nil slash a)
  have hopening :
      (if (a ++ slash :: b).isAbsolute then [Component.root] else leading first) ≠ [] := by
    split
    · exact List.cons_ne_nil _ _
    · next hrelative =>
      refine leading_ne_nil ?_
      rintro rfl
      exact hrelative (isAbsolute_append_slash hfirst)
  have hlength := List.length_pos_iff.2 hopening
  by_contra hvoid
  unfold components at h
  rw [pieces_append_slash hb, pieces, hfirst, List.cons_append] at h
  simp only [List.length_append, List.length_map, List.filter_append] at h
  rw [List.filter_cons_of_pos (by simpa using hvoid)] at h
  simp only [List.length_cons] at h
  omega

/-- Inside a directory a name still ends as it does. -/
theorem exists_join_eq (d a b : Path) : ∃ c, join d (a ++ slash :: b) = c ++ slash :: b := by
  unfold join
  split
  · exact ⟨a, rfl⟩
  split
  · exact ⟨d ++ a, by simp⟩
  · exact ⟨d ++ slash :: a, by simp⟩

end Path

/-! ### Paths that lead to directories -/

namespace FileSystem

variable {fs : FileSystem} {a b p : Path} {place : Place} {xs : List Bytes}

/-- The path leads to a regular file with some execute bit. -/
def IsProgram (fs : FileSystem) (p : Path) : Prop :=
  ∃ place mode content, fs.resolve p = .ok place ∧ fs.get? place = some (.file mode content) ∧
    mode &&& 0o111 ≠ 0

theorem isExecutable_iff : fs.isExecutable p = true ↔ fs.IsProgram p := by
  unfold isExecutable IsProgram lookUp
  cases hresolve : fs.resolve p with
  | error e => simp
  | ok place =>
    cases hnode : fs.get? place with
    | none => simp [hnode]
    | some n => cases n <;> simp [hnode]

/-- A last piece that means nothing is followed like a single dot. -/
theorem exists_steps_of_isVoid (hb : Path.isVoid b = true) :
    ∃ xs, steps (a ++ Path.slash :: b) = xs ++ [[Path.dot]] := by
  rw [Path.isVoid, Bool.or_eq_true, List.isEmpty_iff, decide_eq_true_eq] at hb
  rcases hb with rfl | rfl
  · refine ⟨names (a ++ [Path.slash]), if_pos ?_⟩
    simp [Path.endsInSlash]
  · have hlast : (a ++ [Path.slash, Path.dot]).endsInSlash = false := by simp [Path.endsInSlash]
    refine ⟨a.pieces.filter fun s => !s.isEmpty, ?_⟩
    rw [steps, hlast, names, Path.pieces_append_slash (by decide), List.filter_append]
    rfl

/-- A path that ends in a single dot leads to a directory. -/
theorem isDirectoryAt_of_steps (hsteps : steps p = xs ++ [[Path.dot]])
    (h : fs.resolve p = .ok place) : fs.isDirectoryAt place = true := by
  obtain ⟨-, left, hwalk⟩ := resolve_eq_ok_iff.1 h
  rw [hsteps] at hwalk
  obtain ⟨q, budget, -, hdot⟩ := walk_append_eq_ok hwalk
  have hq := (walk_cons_eq_ok hdot).1
  have harrived : fs.descend q [[Path.dot]] = .ok (.arrived q) := by
    rw [descend_cons, hq]
    rfl
  cases (walk_of_arrived harrived).symm.trans hdot
  exact hq

theorem not_isProgram_of_isVoid (hb : Path.isVoid b = true) :
    ¬ fs.IsProgram (a ++ Path.slash :: b) := by
  rintro ⟨place, mode, content, hresolve, hfile, -⟩
  obtain ⟨xs, hsteps⟩ := exists_steps_of_isVoid (a := a) hb
  have hdirectory := isDirectoryAt_of_steps hsteps hresolve
  rw [isDirectoryAt, decide_eq_true_eq, hfile] at hdirectory
  cases hdirectory

/-- No program is found under a name with a slash and one component, wherever it is looked for. -/
theorem not_isProgram_of_length_components_le (hslash : Path.slash ∈ p)
    (h : p.components.length ≤ 1) : ¬ fs.IsProgram p ∧ ∀ d, ¬ fs.IsProgram (Path.join d p) := by
  obtain ⟨a, b, rfl, hb⟩ := Path.exists_last_slash hslash
  have hvoid := Path.isVoid_of_length_components_le hb h
  refine ⟨not_isProgram_of_isVoid hvoid, fun d => ?_⟩
  obtain ⟨c, hjoin⟩ := Path.exists_join_eq d a b
  rw [hjoin]
  exact not_isProgram_of_isVoid hvoid

/-! ### The working directory -/

theorem walk_dot {budget : Nat} (place : Place) (x : Bytes) (xs : List Bytes) :
    fs.walk budget place ([Path.dot] :: x :: xs) = fs.walk budget place (x :: xs) := by
  have hdescend : fs.descend place ([Path.dot] :: x :: xs) = fs.descend place (x :: xs) := by
    rw [descend_cons]
    split
    · next hdirectory =>
      rw [descend_cons, if_pos hdirectory]
    · rfl
  unfold walk
  rw [hdescend]

theorem steps_of_plain (h : Path.slash ∉ p) (hp : p ≠ []) : steps p = [p] := by
  have hpieces : p.pieces = [p] := List.splitOn_eq_singleton h
  rw [steps, Path.endsInSlash_of_plain h, names, hpieces]
  simp [hp]

theorem steps_dot (h : Path.slash ∉ p) (hp : p ≠ []) :
    steps ([Path.dot] ++ Path.slash :: p) = [[Path.dot], p] := by
  have hlast : Path.endsInSlash ([Path.dot] ++ Path.slash :: p) = false := by
    rw [← Path.endsInSlash_of_plain h, Path.endsInSlash, Path.endsInSlash,
      List.getLast?_append_of_ne_nil _ (List.cons_ne_nil _ _), List.getLast?_cons_of_ne_nil hp]
  have hdot : Path.pieces [Path.dot] = [[Path.dot]] := List.splitOn_eq_singleton (by decide)
  rw [steps, hlast, names, Path.pieces_append_slash h, hdot]
  simp [hp]

/-- Two bytes more make no name too long that can be followed. -/
theorem checkPath_dot (h : isDots p = true ∨ p.length ≤ nameLimit) (hp : p ≠ []) :
    checkPath ([Path.dot] ++ Path.slash :: p) = .ok () ↔ checkPath p = .ok () := by
  have hsize : p.length ≤ nameLimit := by
    refine h.elim (fun hdots => ?_) id
    rw [isDots, Bool.or_eq_true, decide_eq_true_eq, decide_eq_true_eq] at hdots
    rcases hdots with rfl | rfl <;> decide
  have hmore : ([Path.dot] ++ Path.slash :: p).length = p.length + 2 := rfl
  have hshort : p.length + 2 < pathLimit := by
    have hlimits : nameLimit + 2 < pathLimit := by decide
    omega
  rw [checkPath_eq_ok_iff, checkPath_eq_ok_iff, hmore]
  simp [hp, hshort, Nat.lt_of_le_of_lt (Nat.le_add_right _ 2) hshort]

/-- In the working directory a name leads where it leads by itself. -/
theorem isProgram_dot_iff (h : Path.slash ∉ p) :
    fs.IsProgram ([Path.dot] ++ Path.slash :: p) ↔ fs.IsProgram p := by
  by_cases hp : p = []
  · subst hp
    refine iff_of_false (not_isProgram_of_isVoid rfl) ?_
    rintro ⟨place, mode, content, hresolve, -⟩
    exact (checkPath_eq_ok_iff.1 (resolve_eq_ok_iff.1 hresolve).1).2.1 rfl
  have horigin : origin fs.workingDirectory ([Path.dot] ++ Path.slash :: p) =
      origin fs.workingDirectory p := by
    rw [origin, origin, Path.isAbsolute_of_plain h]
    rfl
  unfold IsProgram
  refine exists_congr fun place => exists_congr fun mode => exists_congr fun content =>
    and_congr_left fun _ => ?_
  rw [resolve_eq_ok_iff, resolve_eq_ok_iff, horigin, steps_dot h hp, steps_of_plain h hp]
  simp only [walk_dot]
  refine and_congr_left ?_
  rintro ⟨left, hwalk⟩
  exact checkPath_dot ((walk_cons_eq_ok hwalk).2.imp_right And.left) hp

end FileSystem

/-! ### Finding programs -/

namespace Probe

variable {fs : FileSystem} {searchPath : Option Bytes} {name p : Path} {ds : List Path}

/-- The directory that an entry of a search path means. An empty one means the working directory. -/
def meant (entry : Path) : Path := if entry.isEmpty then [Path.dot] else entry

/-- Where a shell finds a program. -/
inductive Finds (fs : FileSystem) (searchPath : Option Bytes) (name : Path) : Path → Prop
  | asPath (slash : Path.slash ∈ name) (there : fs.IsProgram name) : Finds fs searchPath name name
  | inDirectory {entries : Bytes} {before after : List Path} {d : Path} (plain : Path.slash ∉ name)
      (given : searchPath = some entries) (split : entries.splitOn separator = before ++ d :: after)
      (first : ∀ e ∈ before, ¬ fs.IsProgram (Path.join (meant e) name))
      (there : fs.IsProgram (Path.join (meant d) name)) :
      Finds fs searchPath name (Path.join d name)

theorem isProgram_join_meant_iff (h : Path.slash ∉ name) (d : Path) :
    fs.IsProgram (Path.join (meant d) name) ↔ fs.IsProgram (Path.join d name) := by
  unfold meant
  split
  · next hempty =>
    have hrelative := Path.isAbsolute_of_plain h
    have hhere : Path.join [] name = name := by simp [Path.join]
    have hdot : Path.join [Path.dot] name = [Path.dot] ++ Path.slash :: name := by
      simp [Path.join, hrelative, Path.endsInSlash]
    rw [List.isEmpty_iff.1 hempty, hhere, hdot]
    exact FileSystem.isProgram_dot_iff h
  · exact Iff.rfl

/-- The search finds the first program of a name. -/
theorem search_eq_some_iff :
    search fs ds name = some p ↔
      ∃ before d after, ds = before ++ d :: after ∧
        (∀ e ∈ before, ¬ fs.IsProgram (Path.join e name)) ∧ fs.IsProgram (Path.join d name) ∧
        Path.join d name = p := by
  unfold search
  simp only [List.find?_map, Option.map_eq_some_iff, List.find?_eq_some_iff_append,
    Function.comp_apply, FileSystem.isExecutable_iff, Bool.not_eq_true', ← Bool.not_eq_true]
  constructor
  · rintro ⟨d, ⟨there, before, after, hsplit, first⟩, hp⟩
    exact ⟨before, d, after, hsplit, first, there, hp⟩
  · rintro ⟨before, d, after, hsplit, first, there, hp⟩
    exact ⟨d, ⟨there, before, after, hsplit, first⟩, hp⟩

/-! ### The rule -/

/-- A name with a slash is taken as it is. -/
theorem finds_iff_of_slash (h : Path.slash ∈ name) :
    Finds fs searchPath name p ↔ name = p ∧ fs.IsProgram name := by
  constructor
  · intro hfinds
    cases hfinds with
    | asPath _ there => exact ⟨rfl, there⟩
    | inDirectory plain _ _ _ _ => exact absurd h plain
  · rintro ⟨rfl, there⟩
    exact .asPath h there

/-- Any other is looked for on the search path. -/
theorem finds_iff_of_plain (h : Path.slash ∉ name) :
    Finds fs searchPath name p ↔
      ∃ entries, searchPath = some entries ∧ search fs (directories entries) name = some p := by
  simp only [search_eq_some_iff]
  constructor
  · intro hfinds
    cases hfinds with
    | asPath slash _ => exact absurd slash h
    | inDirectory _ given split first there =>
      refine ⟨_, given, _, _, _, split, fun e he => ?_, (isProgram_join_meant_iff h _).1 there, rfl⟩
      exact mt (isProgram_join_meant_iff h e).2 (first e he)
  · rintro ⟨entries, given, before, d, after, split, first, there, rfl⟩
    refine .inDirectory h given split (fun e he => ?_) ((isProgram_join_meant_iff h d).2 there)
    exact mt (isProgram_join_meant_iff h e).1 (first e he)

theorem onSearchPath_of_components_le {executable : Text} (hname : Utf8.encode executable = name)
    (h : name.components.length ≤ 1) :
    onSearchPath fs searchPath executable = some p ↔
      ∃ entries, searchPath = some entries ∧ search fs (directories entries) name = some p := by
  unfold onSearchPath
  rw [hname]
  dsimp only
  rw [if_neg (Nat.not_lt.2 h)]
  cases searchPath <;> simp

/-- The probe finds a program where a shell finds it, whatever the name looks like, and nothing
    where a shell finds nothing. -/
theorem onSearchPath_eq_some_iff_finds (fs : FileSystem) (searchPath : Option Bytes)
    (executable : Text) (p : Path) :
    onSearchPath fs searchPath executable = some p ↔
      Finds fs searchPath (Utf8.encode executable) p := by
  generalize hname : Utf8.encode executable = name
  by_cases hfew : (Path.components name).length ≤ 1
  · rw [onSearchPath_of_components_le hname hfew]
    by_cases hslash : Path.slash ∈ name
    · obtain ⟨hself, hjoin⟩ : ¬ fs.IsProgram name ∧ ∀ d, ¬ fs.IsProgram (Path.join d name) :=
        FileSystem.not_isProgram_of_length_components_le hslash hfew
      rw [finds_iff_of_slash hslash]
      refine iff_of_false ?_ fun h => hself h.2
      rintro ⟨entries, -, hsearch⟩
      obtain ⟨_, d, _, -, -, there, -⟩ := search_eq_some_iff.1 hsearch
      exact hjoin d there
    · rw [finds_iff_of_plain hslash]
  · have hslash : Path.slash ∈ name := by
      by_contra hplain
      exact hfew (Path.length_components_le hplain)
    unfold onSearchPath
    rw [hname]
    dsimp only
    rw [finds_iff_of_slash hslash, if_pos (Nat.not_le.1 hfew), ← FileSystem.isExecutable_iff]
    cases fs.isExecutable name <;> simp

/-- Names with and without a slash that all have one component at most. -/
example :
    let bytes (s : String) : Bytes := Utf8.encode s.toList
    let fs : FileSystem := ⟨[([bytes "bin"], .directory),
      ([bytes "x", bytes "bin"], .file 0o755 []), ([bytes "y"], .file 0o755 [])], []⟩
    ["x", "y", "y/", "y/.", "./", "/", "", ".."].map
        (fun name => onSearchPath fs (some (bytes "bin:")) name.toList) =
      [some (bytes "bin/x"), some (bytes "y"), none, none, none, none, none, none] := by
  decide

end Probe

end Overseer
