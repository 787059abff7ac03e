import Overseer.CommandLine.Scan

/-! ## Flags

An option without a value that does not end the reading is a flag. It is set exactly if it stands
among the arguments before `--`, wherever values and files stand between them: nothing else sets it,
and no value can hide it. -/

namespace Overseer.CommandLine

/-- Everything behind this argument is a file. -/
def separator : Bytes := [hyphen, hyphen]

variable {a b : Argument}

namespace Argument

/-- An option without a value, which the reading goes on after. -/
def IsFlag (a : Argument) : Prop := a = .is32Bit ∨ a = .debug

/-- What has a value is no flag. -/
theorem IsFlag.ne_of_takesValue (h : a.IsFlag) (hb : b.takesValue = true) : ¬ b = a := by
  rintro rfl
  rcases h with rfl | rfl <;> cases hb

/-- A flag has no letter. -/
theorem IsFlag.ofShort?_ne (h : a.IsFlag) (letter : UInt8) : ofShort? letter ≠ some a := by
  intro hshort
  have hletter := List.find?_some hshort
  rcases h with rfl | rfl <;> cases of_decide_eq_true hletter

/-- No variable stands for a flag. -/
theorem IsFlag.variableName (h : a.IsFlag) : a.describe.variableName = none := by
  rcases h with rfl | rfl <;> rfl

/-- An argument as it is typed. -/
def typed (a : Argument) : Bytes := Utf8.encode a.text

theorem typed_is32Bit : is32Bit.typed = [hyphen, hyphen, 0x33, 0x32] := by decide

theorem typed_debug : debug.typed = [hyphen, hyphen, 0x64, 0x65, 0x62, 0x75, 0x67] := by decide

theorem IsFlag.exists_typed (h : a.IsFlag) : ∃ body, a.typed = hyphen :: hyphen :: body := by
  rcases h with rfl | rfl
  · exact ⟨_, typed_is32Bit⟩
  · exact ⟨_, typed_debug⟩

theorem ofLong?_eq_some {name : Bytes} :
    ofLong? name = some a ↔ a.describe.long.map Utf8.encode = some name := by
  constructor
  · intro h
    have hname := List.find?_some h
    exact of_decide_eq_true hname
  · intro h
    cases a <;> cases h <;> decide

/-- A flag is written as its name, without anything behind it. -/
theorem IsFlag.typed_eq_iff (h : a.IsFlag) (body : Bytes) :
    hyphen :: hyphen :: body = a.typed ↔
      ofLong? (body.takeWhile (· ≠ equals)) = some a ∧ body.dropWhile (· ≠ equals) = [] := by
  have hsplit := List.takeWhile_append_dropWhile (p := fun b => decide (b ≠ equals)) (l := body)
  constructor
  · intro hbody
    rcases h with rfl | rfl
    · rw [typed_is32Bit] at hbody
      cases hbody
      decide
    · rw [typed_debug] at hbody
      cases hbody
      decide
  · rintro ⟨hname, hend⟩
    rw [hend, List.append_nil] at hsplit
    rw [hsplit, ofLong?_eq_some] at hname
    rcases h with rfl | rfl <;> cases hname <;> decide

end Argument

/-- Taking a value sets the flag that it is taken for. -/
theorem Given.has_put {g g' : Given} {value : Bytes} (flag : a.IsFlag)
    (h : g.put b value = .ok g') : g'.has a = true ↔ g.has a = true ∨ b = a := by
  rcases flag with rfl | rfl <;> cases b <;>
    grind [Given.put, Given.putText, Given.putTimeout, Given.putFormat, Given.has]

namespace Scan

/-- Only an option with a value, or a file, waits for one. -/
def Valued (s : Scan) : Prop := ∀ b value, s.pending = some (b, value) → b.takesValue = true

theorem valued_start : start.Valued := nofun

/-- Between two points of the reading a flag is set exactly if `named`, and no separator comes. -/
structure Sets (a : Argument) (named : Prop) (s s' : Scan) : Prop where
  has : s'.given.has a = true ↔ s.given.has a = true ∨ named
  onlyFiles : s'.onlyFiles = s.onlyFiles
  valued : s'.Valued

variable {s s' s'' : Scan} {value : Bytes} {named : Prop}

theorem Sets.refl (hs : s.Valued) : Sets a False s s := ⟨(or_iff_left id).symm, rfl, hs⟩

theorem Sets.of_iff {named' : Prop} (h : Sets a named s s') (hn : named ↔ named') :
    Sets a named' s s' := propext hn ▸ h

/-- What comes first names no flag. -/
theorem Sets.after (first : Sets a False s s') (h : Sets a named s' s'') : Sets a named s s'' where
  has := by rw [h.has, first.has, or_false]
  onlyFiles := h.onlyFiles.trans first.onlyFiles
  valued := h.valued

theorem sets_take (flag : a.IsFlag) (hs : s.Valued) (h : s.take b value = .ok s') :
    Sets a (b = a) s s' := by
  unfold take at h
  split at h
  · cases h
  split at h
  · next hput =>
    cases h
    exact ⟨Given.has_put flag hput, rfl, hs⟩
  · cases h
  · cases h
  · cases h

theorem sets_settle (flag : a.IsFlag) (hs : s.Valued) (h : s.settle = .ok s') :
    Sets a False s s' := by
  unfold settle at h
  split at h
  · cases h
    exact .refl hs
  · cases h
  · next b value hpending =>
    -- What waits for its value has one, so taking it now sets no flag.
    have hb := flag.ne_of_takesValue (hs _ _ hpending)
    have htake := sets_take flag (s := { s with pending := none }) nofun h
    exact ⟨htake.has.trans (by simp [hb]), htake.onlyFiles, htake.valued⟩

theorem sets_attach (flag : a.IsFlag) (hs : s.Valued) (h : s.attach b value = .ok s') :
    Sets a (b = a) s s' := by
  unfold attach at h
  split at h
  · cases h
  · next hsettle =>
    have hfirst := sets_settle flag hs hsettle
    exact hfirst.after (sets_take flag hfirst.valued h)

theorem sets_expect (flag : a.IsFlag) (hs : s.Valued) (hb : b.takesValue = true)
    (h : s.expect b = .ok s') : Sets a False s s' := by
  unfold expect at h
  split at h
  · cases h
  · next hsettle =>
    have hfirst := sets_settle flag hs hsettle
    cases h
    refine ⟨hfirst.has, hfirst.onlyFiles, ?_⟩
    rintro _ _ ⟨⟩
    exact hb

theorem sets_raise (flag : a.IsFlag) (hs : s.Valued) (h : s.raise b = .ok s') :
    Sets a (b = a) s s' := by
  unfold raise at h
  split at h
  · cases h
  · cases h
  · cases h
  · next hsettle _ _ =>
    have hfirst := sets_settle flag hs hsettle
    exact hfirst.after (sets_take flag hfirst.valued h)

theorem sets_file (flag : a.IsFlag) (hs : s.Valued) (h : s.file value = .ok s') :
    Sets a False s s' := by
  unfold file at h
  split at h
  · cases h
  split at h
  · cases h
  · next hsettle =>
    have hfirst := sets_settle flag hs hsettle
    cases h
    refine ⟨hfirst.has, hfirst.onlyFiles, ?_⟩
    rintro _ _ ⟨⟩
    rfl

/-- An argument with two hyphens sets the flag that it is. -/
theorem sets_long {body : Bytes} (flag : a.IsFlag) (hs : s.Valued) (h : s.long body = .ok s') :
    Sets a (hyphen :: hyphen :: body = a.typed) s s' := by
  rw [propext (flag.typed_eq_iff body)]
  simp only [long] at h
  split at h
  · cases h
  · next b hname hend =>
    rw [hname, hend]
    split at h
    · next hb => exact (sets_expect flag hs hb h).of_iff (by simp [flag.ne_of_takesValue hb])
    · exact (sets_raise flag hs h).of_iff (by simp)
  · next b c value hname hend =>
    rw [hname, hend]
    split at h
    · next hb => exact (sets_attach flag hs h).of_iff (by simp [flag.ne_of_takesValue hb])
    · cases h

theorem sets_shorts {letters : Bytes} (flag : a.IsFlag) (hs : s.Valued)
    (h : s.shorts letters = .ok s') : Sets a False s s' := by
  induction letters generalizing s with
  | nil =>
    cases h
    exact .refl hs
  | cons c rest ih =>
    unfold shorts at h
    split at h
    · cases h
    next b hletter =>
    have hb : ¬ b = a := by
      rintro rfl
      exact flag.ofShort?_ne _ hletter
    split at h
    · next htakes =>
      split at h
      · exact sets_expect flag hs htakes h
      · exact (sets_attach flag hs h).of_iff (iff_false_intro hb)
      · exact (sets_attach flag hs h).of_iff (iff_false_intro hb)
    · split at h
      · cases h
      · next hraise =>
        have hfirst := (sets_raise flag hs hraise).of_iff (iff_false_intro hb)
        exact hfirst.after (ih hfirst.valued h)

theorem sets_plain (flag : a.IsFlag) (hs : s.Valued) (h : s.plain value = .ok s') :
    Sets a False s s' := by
  unfold plain at h
  split at h
  · next b hpending =>
    cases h
    refine ⟨(or_iff_left id).symm, rfl, ?_⟩
    rintro _ _ ⟨⟩
    exact hs _ _ hpending
  · exact sets_file flag hs h

/-! ### Whole command lines -/

/-- An argument before the separator sets the flag that it is. -/
theorem sets_step {arg : Bytes} (flag : a.IsFlag) (hs : s.Valued) (before : s.onlyFiles = false)
    (harg : arg ≠ separator) (h : s.step arg = .ok s') : Sets a (arg = a.typed) s s' := by
  obtain ⟨body, hbody⟩ := flag.exists_typed
  simp only [step, before, Bool.false_eq_true, if_false] at h
  split at h
  · exact absurd rfl harg
  · exact sets_long flag hs h
  · next _ hc =>
    refine (sets_shorts flag hs h).of_iff (iff_of_false id fun htext => ?_)
    rw [hbody] at htext
    cases htext
    exact hc rfl
  · next hlong _ =>
    refine (sets_plain flag hs h).of_iff (iff_of_false id fun htext => ?_)
    exact hlong body (htext.trans hbody)

/-- What never names a flag names none when it is repeated. -/
theorem sets_foldlM {α : Type} {f : Scan → α → Except Halt Scan} {xs : List α} {o : Bool}
    (hf : ∀ {s s' x}, s.Valued → s.onlyFiles = o → f s x = .ok s' → Sets a False s s')
    (hs : s.Valued) (ho : s.onlyFiles = o) (h : xs.foldlM f s = .ok s') : Sets a False s s' := by
  induction xs generalizing s with
  | nil =>
    cases h
    exact .refl hs
  | cons x xs ih =>
    rw [List.foldlM_cons] at h
    match hfirst : f s x, h with
    | .ok t, h =>
      have hfirst := hf hs ho hfirst
      exact hfirst.after (ih hfirst.valued (hfirst.onlyFiles.trans ho) h)

/-- An argument behind the separator sets no flag. -/
theorem sets_step_behind {arg : Bytes} (flag : a.IsFlag) (hs : s.Valued)
    (behind : s.onlyFiles = true) (h : s.step arg = .ok s') : Sets a False s s' := by
  simp only [step, behind, if_true] at h
  exact sets_file flag hs h

/-- The flags before the separator are set. -/
theorem has_of_args {args : List Bytes} (flag : a.IsFlag) (hs : s.Valued)
    (before : s.onlyFiles = false) (h : args.foldlM step s = .ok s') :
    (s'.given.has a = true ↔
      s.given.has a = true ∨ a.typed ∈ args.takeWhile (· ≠ separator)) ∧ s'.Valued := by
  induction args generalizing s with
  | nil =>
    cases h
    exact ⟨by simp, hs⟩
  | cons arg args ih =>
    rw [List.foldlM_cons] at h
    match hstep : s.step arg, h with
    | .ok t, h =>
      by_cases harg : arg = separator
      · subst harg
        simp only [step, before] at hstep
        cases hstep
        have hrest :=
          sets_foldlM (s := { s with onlyFiles := true }) (sets_step_behind flag) hs rfl h
        exact ⟨by simpa using hrest.has, hrest.valued⟩
      · have hfirst := sets_step flag hs before harg hstep
        obtain ⟨hhas, hvalued⟩ := ih hfirst.valued (hfirst.onlyFiles.trans before) h
        refine ⟨?_, hvalued⟩
        rw [hhas, hfirst.has, or_assoc, List.takeWhile_cons_of_pos (by simpa using harg),
          List.mem_cons, eq_comm (a := arg)]

/-- The environment sets no flag. -/
theorem sets_fill {env : Environment} (flag : a.IsFlag) (hs : s.Valued)
    (h : fill env s b = .ok s') : Sets a False s s' := by
  unfold fill at h
  split at h
  · cases h
    exact .refl hs
  split at h
  · cases h
    exact .refl hs
  · next hvariable =>
    refine (sets_take flag hs h).of_iff (iff_false_intro ?_)
    rintro rfl
    rw [flag.variableName] at hvariable
    cases hvariable

/-- The flags before the separator are set, and no others. -/
theorem has_of_all {args : List Bytes} {env : Environment} (flag : a.IsFlag)
    (h : all args env = .ok s) :
    s.given.has a = true ↔ a.typed ∈ args.takeWhile (· ≠ separator) := by
  unfold all at h
  split at h
  · cases h
  next hargs =>
  split at h
  · cases h
  next hsettle =>
  obtain ⟨hhas, hvalued⟩ := has_of_args flag valued_start rfl hargs
  have hsettled := sets_settle flag hvalued hsettle
  have hfilled := sets_foldlM (fun hs _ => sets_fill flag hs) hsettled.valued rfl h
  rw [hfilled.has, hsettled.has, hhas]
  rcases flag with rfl | rfl <;> simp [start, Given.nothing, Given.has]

end Scan

/-- The flags of a command line that is read are those before the separator. -/
theorem Settings.flags_of_read {args : List Bytes} {env : Environment} {s : Settings}
    (h : Settings.read args env = .ok s) :
    (s.is32Bit = true ↔ Argument.is32Bit.typed ∈ args.takeWhile (· ≠ separator)) ∧
      (s.debug = true ↔ Argument.debug.typed ∈ args.takeWhile (· ≠ separator)) := by
  unfold Settings.read at h
  split at h
  · cases h
  next t hall =>
  split at h
  · next hgiven =>
    cases h
    obtain ⟨input, -, rfl⟩ := Option.map_eq_some_iff.1 hgiven
    exact ⟨Scan.has_of_all (.inl rfl) hall, Scan.has_of_all (.inr rfl) hall⟩
  · cases h

end Overseer.CommandLine
