import Overseer.Files.Change

/-! ## Writing a file

A file that was written is found again under the path that it was written to. Writing changes the
tree at one place, where there was nothing or a file, and following a path to anything else never
comes through such a place. -/

namespace Overseer.FileSystem

variable {fs fs' : FileSystem} {place q : Place} {n : Node} {apart : List Place}

/-! ### Places -/

theorem lookup_filter_ne {nodes : List (Place × Node)} (h : q ≠ place) :
    (nodes.filter fun e => e.1 ≠ place).lookup q = nodes.lookup q := by
  induction nodes with
  | nil => rfl
  | cons e nodes ih =>
    obtain ⟨p, m⟩ := e
    by_cases hp : p = place
    · subst hp
      have hq : (q == p) = false := by simpa using h
      simpa [List.lookup_cons, hq] using ih
    · have hkept := List.filter_cons_of_pos (p := fun e : Place × Node => decide (e.1 ≠ place))
        (a := (p, m)) (l := nodes) (by simpa using hp)
      rw [hkept, List.lookup_cons, List.lookup_cons, ih]

theorem get?_set_self (h : place ≠ []) : (fs.set place n).get? place = some n := by
  simp [get?, set, h]

theorem get?_set_of_ne (h : q ≠ place) : (fs.set place n).get? q = fs.get? q := by
  have hq : (q == place) = false := by simpa using h
  simp only [get?, set, List.lookup_cons, hq, lookup_filter_ne h]

theorem isDirectoryAt_set_of_ne (h : q ≠ place) :
    (fs.set place n).isDirectoryAt q = fs.isDirectoryAt q := by
  unfold isDirectoryAt
  rw [get?_set_of_ne h]

/-- There is nothing at the place, or a file. -/
def Writable (fs : FileSystem) (place : Place) : Prop :=
  ∀ n, fs.get? place = some n → ∃ mode content, n = .file mode content

theorem Writable.of_none (h : fs.get? place = none) : fs.Writable place := by
  intro n hn
  rw [h] at hn
  cases hn

theorem Writable.not_directory (h : fs.Writable place) : fs.isDirectoryAt place = false := by
  simp only [isDirectoryAt, decide_eq_false_iff_not]
  intro hdirectory
  obtain ⟨_, _, hfile⟩ := h _ hdirectory
  cases hfile

theorem Writable.ne_nil (h : fs.Writable place) : place ≠ [] := by
  rintro rfl
  cases h.not_directory

/-- A directory is not where a file is written. -/
theorem Writable.ne_of_directory (h : fs.Writable place) (hq : fs.isDirectoryAt q = true) :
    q ≠ place := by
  rintro rfl
  rw [h.not_directory] at hq
  cases hq

/-! ### Following names -/

theorem descend_cons (fs : FileSystem) (place : Place) (name : Bytes) (rest : List Bytes) :
    fs.descend place (name :: rest) =
      if !fs.isDirectoryAt place then .error .notDirectory
      else if name = [Path.dot] then fs.descend place rest
      else if name = [Path.dot, Path.dot] then fs.descend place.tail rest
      else if nameLimit < name.length then .error .nameTooLong
      else
        match fs.get? (name :: place) with
        | none => .error .noEntry
        | some (.link target) => .ok (.link place target rest)
        | some _ => fs.descend (name :: place) rest := rfl

theorem descend_append (fs : FileSystem) (place : Place) (a b : List Bytes) :
    fs.descend place (a ++ b) =
      match fs.descend place a with
      | .error e => .error e
      | .ok (.arrived q) => fs.descend q b
      | .ok (.link directory target rest) => .ok (.link directory target (rest ++ b)) := by
  induction a generalizing place with
  | nil => rfl
  | cons name a ih =>
    rw [List.cons_append, descend_cons, descend_cons]
    split
    · rfl
    split
    · exact ih place
    split
    · exact ih place.tail
    split
    · rfl
    split
    · rfl
    · rfl
    · exact ih (name :: place)

/-- Names that lead past a place where a file is written, or stop at it, begin elsewhere. -/
theorem Writable.eq_nil_of_descend {todo : List Bytes} {stop : Stop} (h : fs.Writable place)
    (hstop : fs.descend place todo = .ok stop) : stop = .arrived place := by
  cases todo with
  | nil =>
    cases hstop
    rfl
  | cons name rest =>
    rw [descend_cons, h.not_directory] at hstop
    cases hstop

/-- What is at any place but some is there afterwards too. -/
def Keeps (apart : List Place) (fs fs' : FileSystem) : Prop :=
  ∀ q ∉ apart, ∀ n, fs.get? q = some n → fs'.get? q = some n

theorem Keeps.set (fs : FileSystem) (place : Place) (n : Node) :
    Keeps [place] fs (fs.set place n) := by
  intro q hq m hm
  rw [get?_set_of_ne (List.ne_of_not_mem_cons hq)]
  exact hm

theorem Keeps.isDirectoryAt (h : Keeps apart fs fs') (hq : q ∉ apart)
    (hdirectory : fs.isDirectoryAt q = true) : fs'.isDirectoryAt q = true := by
  simp only [FileSystem.isDirectoryAt, decide_eq_true_eq] at hdirectory ⊢
  exact h q hq _ hdirectory

/-- Names that lead anywhere but to a place where a file may be written lead there afterwards too. -/
theorem Keeps.descend {start : Place} {todo : List Bytes} {stop : Stop} (h : Keeps apart fs fs')
    (writable : ∀ p ∈ apart, fs.Writable p) (hstop : fs.descend start todo = .ok stop)
    (hne : ∀ p ∈ apart, stop ≠ .arrived p) : fs'.descend start todo = .ok stop := by
  induction todo generalizing start with
  | nil => exact hstop
  | cons name rest ih =>
    rw [descend_cons] at hstop ⊢
    split at hstop
    · cases hstop
    next hdirectory =>
    rw [Bool.not_eq_true, Bool.not_eq_false'] at hdirectory
    have hstart : start ∉ apart := fun hp => (writable _ hp).ne_of_directory hdirectory rfl
    have hthere := h.isDirectoryAt hstart hdirectory
    rw [if_neg (by simp [hthere])]
    split at hstop
    · next hcurrent =>
      rw [if_pos hcurrent]
      exact ih hstop
    next hcurrent =>
    rw [if_neg hcurrent]
    split at hstop
    · next hparent =>
      rw [if_pos hparent]
      exact ih hstop
    next hparent =>
    rw [if_neg hparent]
    split at hstop
    · cases hstop
    next hlong =>
    rw [if_neg hlong]
    -- The next name is not a file that may be written: nothing leads on from there.
    have hnext : fs.get? (name :: start) ≠ none → name :: start ∉ apart := by
      intro hsome hp
      split at hstop
      · next hnone => exact hsome hnone
      · next hlink =>
        obtain ⟨_, _, hfile⟩ := writable _ hp _ hlink
        cases hfile
      · exact hne _ hp ((writable _ hp).eq_nil_of_descend hstop)
    cases hnode : fs.get? (name :: start) with
    | none =>
      rw [hnode] at hstop
      cases hstop
    | some n =>
      have hkept := h _ (hnext (by simp [hnode])) n hnode
      rw [hnode] at hstop
      rw [hkept]
      cases n with
      | link target => exact hstop
      | file mode content => exact ih hstop
      | directory => exact ih hstop

/-! ### Following links -/

theorem walk_of_arrived {budget : Nat} {todo : List Bytes}
    (h : fs.descend place todo = .ok (.arrived q)) : fs.walk budget place todo = .ok (q, budget) := by
  unfold walk
  rw [h]

theorem walk_of_link {budget : Nat} {todo rest : List Bytes} {directory : Place} {target : Path}
    (h : fs.descend place todo = .ok (.link directory target rest)) :
    fs.walk (budget + 1) place todo =
      fs.walk budget (origin directory target) (steps target ++ rest) := by
  conv =>
    lhs
    unfold walk
  rw [h]

/-- Names that lead to a place do so by no link, or by a first one. -/
theorem walk_eq_ok {budget left : Nat} {todo : List Bytes}
    (h : fs.walk budget place todo = .ok (q, left)) :
    (fs.descend place todo = .ok (.arrived q) ∧ left = budget) ∨
      ∃ fewer directory target rest, budget = fewer + 1 ∧
        fs.descend place todo = .ok (.link directory target rest) ∧
        fs.walk fewer (origin directory target) (steps target ++ rest) = .ok (q, left) := by
  unfold walk at h
  split at h
  · cases h
  · next hdescend =>
    cases h
    exact .inl ⟨hdescend, rfl⟩
  · cases h
  · next directory target rest fewer hdescend =>
    exact .inr ⟨fewer, directory, target, rest, rfl, hdescend, h⟩

/-- Names are followed one stretch after the other. -/
theorem walk_append {budget left : Nat} {a b : List Bytes}
    (h : fs.walk budget place a = .ok (q, left)) :
    fs.walk budget place (a ++ b) = fs.walk left q b := by
  induction budget generalizing place a with
  | zero =>
    rcases walk_eq_ok h with ⟨hdescend, rfl⟩ | ⟨_, _, _, _, hbudget, _⟩
    · unfold walk
      rw [descend_append, hdescend]
    · cases hbudget
  | succ budget ih =>
    rcases walk_eq_ok h with ⟨hdescend, rfl⟩ | ⟨fewer, directory, target, rest, hbudget, hdescend, h⟩
    · unfold walk
      rw [descend_append, hdescend]
    · cases hbudget
      have happend : fs.descend place (a ++ b) = .ok (.link directory target (rest ++ b)) := by
        rw [descend_append, hdescend]
      rw [walk_of_link happend, ← List.append_assoc]
      exact ih h

/-- A slash at the end of a path leads on to the directory itself. -/
theorem walk_steps {budget left : Nat} {start : Place} {p : Path}
    (h : fs.walk budget start (names p) = .ok (q, left)) (hq : fs.isDirectoryAt q = true) :
    fs.walk budget start (steps p) = .ok (q, left) := by
  unfold steps
  split
  · refine (walk_append h).trans (walk_of_arrived ?_)
    rw [descend_cons, hq]
    rfl
  · exact h

theorem exists_descend_of_walk {budget : Nat} {a b : List Bytes} {found : Place × Nat}
    (h : fs.walk budget place (a ++ b) = .ok found) : ∃ stop, fs.descend place a = .ok stop := by
  cases hdescend : fs.descend place a with
  | ok stop => exact ⟨stop, rfl⟩
  | error e =>
    unfold walk at h
    rw [descend_append, hdescend] at h
    cases h

/-- What is followed to its end is followed to the end of each stretch. -/
theorem walk_append_eq_ok {budget : Nat} {place : Place} {a b : List Bytes} {found : Place × Nat}
    (h : fs.walk budget place (a ++ b) = .ok found) :
    ∃ q left, fs.walk budget place a = .ok (q, left) ∧ fs.walk left q b = .ok found := by
  obtain ⟨stop, hdescend⟩ := exists_descend_of_walk h
  cases stop with
  | arrived q =>
    have hwalk : fs.walk budget place a = .ok (q, budget) := walk_of_arrived hdescend
    exact ⟨q, budget, hwalk, (walk_append hwalk).symm.trans h⟩
  | link directory target rest =>
    have happend : fs.descend place (a ++ b) = .ok (.link directory target (rest ++ b)) := by
      rw [descend_append, hdescend]
    cases budget with
    | zero =>
      unfold walk at h
      rw [happend] at h
      cases h
    | succ budget =>
      rw [walk_of_link happend, ← List.append_assoc] at h
      obtain ⟨q, left, hfirst, hrest⟩ := walk_append_eq_ok h
      exact ⟨q, left, (walk_of_link hdescend).trans hfirst, hrest⟩

/-- A name can be followed only from a directory, and only if it is there. -/
theorem walk_cons_eq_ok {budget : Nat} {name : Bytes} {rest : List Bytes} {found : Place × Nat}
    (h : fs.walk budget place (name :: rest) = .ok found) :
    fs.isDirectoryAt place = true ∧ (isDots name = true ∨
      name.length ≤ nameLimit ∧ (fs.get? (name :: place)).isSome = true) := by
  obtain ⟨stop, hdescend⟩ := exists_descend_of_walk ((List.append_nil (name :: rest)).symm ▸ h)
  rw [descend_cons] at hdescend
  split at hdescend
  · cases hdescend
  next hdirectory =>
  refine ⟨by simpa using hdirectory, ?_⟩
  split at hdescend
  · next hcurrent => exact .inl (by simp [isDots, hcurrent])
  split at hdescend
  · next hparent => exact .inl (by simp [isDots, hparent])
  split at hdescend
  · cases hdescend
  next hlong =>
  refine .inr ⟨Nat.not_lt.1 hlong, ?_⟩
  cases hnode : fs.get? (name :: place) with
  | some n => rfl
  | none =>
    rw [hnode] at hdescend
    cases hdescend

/-- Names and links that lead anywhere but to a place where a file may be written lead there
    afterwards too. -/
theorem Keeps.walk {budget left : Nat} {start : Place} {todo : List Bytes}
    (h : Keeps apart fs fs') (writable : ∀ p ∈ apart, fs.Writable p)
    (hwalk : fs.walk budget start todo = .ok (q, left)) (hq : q ∉ apart) :
    fs'.walk budget start todo = .ok (q, left) := by
  have hne : ∀ p ∈ apart, Stop.arrived q ≠ .arrived p := by
    rintro p hp heq
    cases heq
    exact hq hp
  induction budget generalizing start todo with
  | zero =>
    rcases walk_eq_ok hwalk with ⟨hdescend, rfl⟩ | ⟨_, _, _, _, hbudget, _⟩
    · exact walk_of_arrived (h.descend writable hdescend hne)
    · cases hbudget
  | succ budget ih =>
    rcases walk_eq_ok hwalk with
      ⟨hdescend, rfl⟩ | ⟨fewer, directory, target, rest, hbudget, hdescend, hwalk⟩
    · exact walk_of_arrived (h.descend writable hdescend hne)
    · cases hbudget
      rw [walk_of_link (h.descend writable hdescend fun _ _ => nofun)]
      exact ih hwalk

theorem Writable.walk_set {budget left : Nat} {start : Place} {todo : List Bytes}
    (h : fs.Writable place) (hwalk : fs.walk budget start todo = .ok (q, left)) (hne : q ≠ place) :
    (fs.set place n).walk budget start todo = .ok (q, left) :=
  (Keeps.set fs place n).walk (List.forall_mem_singleton.2 h) hwalk (by simpa using hne)

theorem checkPath_eq_ok_iff {p : Path} :
    checkPath p = .ok () ↔ 0 ∉ p ∧ p ≠ [] ∧ p.length < pathLimit := by
  unfold checkPath
  split
  · next hnul => simp [hnul]
  split
  · next hempty => simp [List.isEmpty_iff.1 hempty]
  split
  · next hnul hempty hlong => simp [Nat.not_lt.2 hlong]
  · next hnul hempty hlong =>
    exact iff_of_true rfl ⟨hnul, mt List.isEmpty_iff.2 hempty, Nat.not_le.1 hlong⟩

theorem resolve_eq_ok_iff {p : Path} :
    fs.resolve p = .ok q ↔ checkPath p = .ok () ∧
      ∃ left, fs.walk linkLimit (origin fs.workingDirectory p) (steps p) = .ok (q, left) := by
  unfold resolve
  cases checkPath p with
  | error e => exact iff_of_false nofun (fun h => nomatch h.1)
  | ok =>
    cases hwalk : fs.walk linkLimit (origin fs.workingDirectory p) (steps p) with
    | error e => exact iff_of_false nofun (fun ⟨_, _, h⟩ => nomatch h)
    | ok found =>
      obtain ⟨place, left⟩ := found
      simp [Except.map]

theorem isDirectory_iff {p : Path} :
    fs.isDirectory p = true ↔ ∃ q, fs.resolve p = .ok q ∧ fs.isDirectoryAt q = true := by
  unfold isDirectory lookUp isDirectoryAt
  cases fs.resolve p with
  | error e => simp
  | ok q =>
    cases hnode : fs.get? q with
    | none => simp [hnode]
    | some n => cases n <;> simp [hnode]

/-! ### The place of a file -/

theorem splitLast?_eq_some {xs before : List Bytes} {name : Bytes}
    (h : splitLast? xs = some (before, name)) : xs = before ++ [name] := by
  unfold splitLast? at h
  obtain ⟨last, hlast, heq⟩ := Option.map_eq_some_iff.1 h
  obtain ⟨ys, rfl⟩ := List.getLast?_eq_some_iff.1 hlast
  cases heq
  rw [List.dropLast_concat]

/-- Where writing to a path leads: the names before the last lead to a directory, and the last one is
    that of the file or of a link that leads on. -/
theorem writePlace_eq_ok {hops budget : Nat} {start : Place} {p : Path}
    (h : fs.writePlace (hops + 1) budget start p = .ok place) :
    ∃ before name directory left, steps p = before ++ [name] ∧
      fs.walk budget (origin start p) before = .ok (directory, left) ∧
      fs.isDirectoryAt directory = true ∧ isDots name = false ∧ name.length ≤ nameLimit ∧
      ((∃ fewer target, left = fewer + 1 ∧ fs.get? (name :: directory) = some (.link target) ∧
          fs.writePlace hops fewer directory target = .ok place) ∨
        place = name :: directory ∧ fs.Writable place) := by
  unfold writePlace at h
  split at h
  · cases h
  next before name hsplit =>
  split at h
  · cases h
  next directory left hwalk =>
  split at h
  · cases h
  next hdirectory =>
  split at h
  · cases h
  next hdots =>
  split at h
  · cases h
  next hlong =>
  simp only [Bool.not_eq_true', Bool.not_eq_false, Bool.or_eq_true, not_or, Bool.not_eq_true,
    Nat.not_lt] at hdirectory hdots hlong
  have hsteps : steps p = before ++ [name] := by
    rw [steps, hdots.2]
    exact splitLast?_eq_some hsplit
  refine ⟨before, name, directory, left, hsteps, hwalk, hdirectory, hdots.1, hlong, ?_⟩
  split at h
  · cases h
  · next target hlink =>
    split at h
    · cases h
    · next hleft =>
      obtain ⟨fewer, rfl⟩ := Nat.exists_eq_succ_of_ne_zero hleft
      exact .inl ⟨fewer, target, rfl, hlink, h⟩
  · next hdirectory hlink =>
    cases h
    refine .inr ⟨rfl, fun n hn => ?_⟩
    cases n with
    | file mode content => exact ⟨mode, content, rfl⟩
    | directory => exact absurd hn hdirectory
    | link target => exact absurd hn (hlink target)

theorem Writable.of_writePlace {hops budget : Nat} {start : Place} {p : Path}
    (h : fs.writePlace hops budget start p = .ok place) : fs.Writable place := by
  induction hops generalizing budget start p with
  | zero => cases h
  | succ hops ih =>
    obtain ⟨_, _, _, _, _, _, _, _, _, hlast⟩ := writePlace_eq_ok h
    rcases hlast with ⟨_, _, _, _, hrest⟩ | ⟨-, hwritable⟩
    · exact ih hrest
    · exact hwritable

/-- One more name, in a directory. -/
theorem descend_name {directory : Place} {name : Bytes}
    (hdirectory : fs.isDirectoryAt directory = true) (hdots : isDots name = false)
    (hlong : name.length ≤ nameLimit) :
    fs.descend directory [name] =
      match fs.get? (name :: directory) with
      | none => .error .noEntry
      | some (.link target) => .ok (.link directory target [])
      | some _ => .ok (.arrived (name :: directory)) := by
  simp only [isDots, Bool.or_eq_false_iff, decide_eq_false_iff_not] at hdots
  rw [descend_cons]
  simp only [hdirectory, hdots.1, hdots.2, Nat.not_lt.2 hlong, Bool.not_true, Bool.false_eq_true,
    if_false]
  rfl

/-- The path leads to the file once it is there. -/
theorem walk_set_of_writePlace {hops budget : Nat} {start : Place} {p : Path}
    (h : fs.writePlace hops budget start p = .ok place) (mode : Nat) (content : Bytes) :
    ∃ left, (fs.set place (.file mode content)).walk budget (origin start p) (steps p) =
      .ok (place, left) := by
  have hwritable := Writable.of_writePlace h
  induction hops generalizing budget start p with
  | zero => cases h
  | succ hops ih =>
    obtain ⟨before, name, directory, left, hsteps, hwalk, hdirectory, hdots, hlong, hlast⟩ :=
      writePlace_eq_ok h
    have hne := hwritable.ne_of_directory hdirectory
    have hbefore := hwritable.walk_set (n := .file mode content) hwalk hne
    have hthere : (fs.set place (.file mode content)).isDirectoryAt directory = true :=
      (isDirectoryAt_set_of_ne hne).trans hdirectory
    have hname := descend_name hthere hdots hlong
    rw [hsteps, walk_append hbefore]
    rcases hlast with ⟨fewer, target, rfl, hlink, hrest⟩ | ⟨rfl, -⟩
    · have hnext : name :: directory ≠ place := by
        rintro rfl
        obtain ⟨_, _, hfile⟩ := hwritable _ hlink
        cases hfile
      rw [get?_set_of_ne hnext, hlink] at hname
      rw [walk_of_link hname, List.append_nil]
      exact ih hrest
    · rw [get?_set_self (List.cons_ne_nil _ _)] at hname
      exact ⟨left, walk_of_arrived hname⟩

/-! ### Files -/

/-- Writing makes a file at one place, or replaces what the file there holds, and the path leads to
    that place. -/
theorem write_eq_ok {p : Path} {content : Bytes} {user : Access}
    (h : fs.write p content user = .ok fs') :
    ∃ place, fs.Writable place ∧ fs' = fs.set place (.file (fs.modeAt place) content) ∧
      fs'.resolve p = .ok place := by
  unfold write at h
  split at h
  · cases h
  next hcheck =>
  split at h
  · cases h
  next place hplace =>
  split at h
  · cases h
  cases h
  refine ⟨place, .of_writePlace hplace, rfl, ?_⟩
  obtain ⟨left, hwalk⟩ := walk_set_of_writePlace hplace (fs.modeAt place) content
  exact resolve_eq_ok_iff.2 ⟨hcheck, left, hwalk⟩

/-- What would be written has no part in why a file is not. -/
theorem write_eq_error {p : Path} {content : Bytes} {user : Access} {e : OsError}
    (h : fs.write p content user = .error e) (other : Bytes) :
    fs.write p other user = .error e := by
  unfold write at h ⊢
  split at h
  · exact h
  split at h
  · exact h
  split at h
  · next hrefused =>
    rw [if_pos hrefused]
    exact h
  · cases h

theorem read_eq_ok_iff {p : Path} {content : Bytes} :
    fs.read p = .ok content ↔
      ∃ q mode, fs.resolve p = .ok q ∧ fs.get? q = some (.file mode content) := by
  unfold read lookUp
  cases fs.resolve p with
  | error e => exact iff_of_false nofun (fun ⟨_, _, h, _⟩ => nomatch h)
  | ok q =>
    cases hnode : fs.get? q with
    | none => simp [hnode]
    | some n => cases n <;> simp [hnode]

end Overseer.FileSystem
