import Overseer.Proofs.Child.Scene

/-! ## The life of a session

A session is used by calls, one after the other. A call is polled until it is ready or the caller
gives it up, and meanwhile the child and its pipes do what they like. Whatever happens, a session
only `Advances`: an exit status stays, a reported exit stays reported, and only an exit whose status
was taken is reported. -/

namespace Overseer.ChildSession

variable {s t u : ChildSession}

/-! ### What the session keeps to itself -/

/-- `t` has the same state of its own as `s`: they differ only in what has arrived on the pipes,
    what follows it, and what waiting for the child comes to. -/
structure Keeps (s t : ChildSession) : Prop where
  id : t.id = s.id
  recorded : t.recorded = s.recorded
  finished : t.finished = s.finished
  limit : ∀ st, (t.reader st).limit = (s.reader st).limit
  buffer : ∀ st, (t.reader st).buffer = (s.reader st).buffer
  ended : ∀ st, (t.reader st).ended = (s.reader st).ended

namespace Keeps

theorem refl (s : ChildSession) : s.Keeps s :=
  ⟨rfl, rfl, rfl, fun _ => rfl, fun _ => rfl, fun _ => rfl⟩

/-- Bytes arrive, and what follows them becomes known. -/
theorem pipe (s : ChildSession) (st : Stream) (bytes : Bytes) (tail : Tail) :
    s.Keeps (s.setReader { s.reader st with arrived := bytes, tail := tail } st) := by
  cases st with
  | stdout => exact ⟨rfl, rfl, rfl, by rintro ⟨⟩ <;> rfl, by rintro ⟨⟩ <;> rfl, by rintro ⟨⟩ <;> rfl⟩
  | stderr => exact ⟨rfl, rfl, rfl, by rintro ⟨⟩ <;> rfl, by rintro ⟨⟩ <;> rfl, by rintro ⟨⟩ <;> rfl⟩

/-- Waiting for the child comes to something. -/
theorem exit (s : ChildSession) (w : Option Waited) : s.Keeps { s with exit := w } :=
  ⟨rfl, rfl, rfl, fun st => by cases st <;> rfl, fun st => by cases st <;> rfl,
    fun st => by cases st <;> rfl⟩

theorem bothEnded (h : s.Keeps t) : t.bothEnded = s.bothEnded := by
  have hout := h.ended .stdout
  have herr := h.ended .stderr
  simp only [reader] at hout herr
  simp only [ChildSession.bothEnded, hout, herr]

end Keeps

/-- `t` may come after `s`. -/
structure Advances (s t : ChildSession) : Prop where
  recorded : ∀ status, s.recorded = some status → t.recorded = some status
  finished : s.finished = true → t.finished = true
  taken : t.finished = true → s.finished = true ∨ t.recorded.isSome = true

theorem Advances.trans (h : s.Advances t) (h' : t.Advances u) : s.Advances u where
  recorded status hs := h'.recorded status (h.recorded status hs)
  finished hs := h'.finished (h.finished hs)
  taken hu := by
    rcases h'.taken hu with ht | hu
    · refine (h.taken ht).imp_right fun ht => ?_
      obtain ⟨status, ht⟩ := Option.isSome_iff_exists.1 ht
      rw [h'.recorded status ht]
      rfl
    · exact .inr hu

/-- Nothing was taken or reported. -/
theorem advances_of_eq (recorded : t.recorded = s.recorded) (finished : t.finished = s.finished) :
    s.Advances t where
  recorded _ hs := recorded.trans hs
  finished hs := finished.trans hs
  taken ht := .inl (finished.symm.trans ht)

theorem Keeps.advances (h : s.Keeps t) : s.Advances t := advances_of_eq h.recorded h.finished

theorem Advances.refl (s : ChildSession) : s.Advances s := advances_of_eq rfl rfl

/-! ### Reading -/

/-- Only the pipes were read. -/
structure OnlyReads (s t : ChildSession) : Prop where
  recorded : t.recorded = s.recorded
  finished : t.finished = s.finished

theorem OnlyReads.trans (h : s.OnlyReads t) (h' : t.OnlyReads u) : s.OnlyReads u :=
  ⟨h'.recorded.trans h.recorded, h'.finished.trans h.finished⟩

theorem OnlyReads.advances (h : s.OnlyReads t) : s.Advances t :=
  advances_of_eq h.recorded h.finished

theorem onlyReads_pollStream (st : Stream) (s : ChildSession) : s.OnlyReads (s.pollStream st).2 := by
  obtain ⟨r, h⟩ := s.exists_pollStream_eq_setReader st
  rw [h]
  cases st <;> exact ⟨rfl, rfl⟩

theorem onlyReads_pollLine (first : Stream) (s : ChildSession) :
    s.OnlyReads (s.pollLine first).2 := by
  have hfirst := onlyReads_pollStream first s
  have hboth := hfirst.trans (onlyReads_pollStream first.other (s.pollStream first).2)
  unfold pollLine
  split
  · next t h =>
    rw [h] at hboth
    exact hboth
  · next t h =>
    rw [h] at hboth
    dsimp only at hboth
    split
    · next t' h' =>
      rw [h'] at hboth
      exact hboth
    · exact hboth
  · exact hfirst

theorem onlyReads_pollHandshake (s : ChildSession) : s.OnlyReads s.pollHandshake.2 := by
  have hpoll := onlyReads_pollStream .stderr s
  unfold pollHandshake
  split
  · next h => rwa [h] at hpoll
  · next h => rwa [h] at hpoll
  · next h => rwa [h] at hpoll

theorem onlyReads_drainLoop (first : Stream) (fuel : Nat) (found : List OutputLine)
    (s : ChildSession) : s.OnlyReads (drainLoop first fuel found s).2 := by
  induction fuel generalizing found s with
  | zero => exact ⟨rfl, rfl⟩
  | succ fuel ih =>
    have hline := onlyReads_pollLine first s
    unfold drainLoop
    split
    · next h => rwa [h] at hline
    · next h => rwa [h] at hline
    · next h => rwa [h] at hline
    · next l t h =>
      rw [h] at hline
      exact hline.trans (ih (l :: found) t)

/-! ### Events -/

/-- What a poll for an event may come to. -/
structure Polls (s : ChildSession) (r : Poll (Except ProcessError Event) × ChildSession) :
    Prop where
  advances : s.Advances r.2
  exited : ∀ code, r.1 = .ready (.ok (.exited code)) →
    r.2.finished = true ∧ r.2.recorded.bind ExitStatus.code? = code

theorem OnlyReads.polls {r : Poll (Except ProcessError Event) × ChildSession}
    (h : s.OnlyReads t) (h' : t.Polls r) : s.Polls r := ⟨h.advances.trans h'.advances, h'.exited⟩

/-- A poll that reports no exit. -/
theorem Advances.polls {answer : Poll (Except ProcessError Event)} (h : s.Advances t)
    (hanswer : ∀ code, answer ≠ .ready (.ok (.exited code))) : s.Polls (answer, t) :=
  ⟨h, fun code hcode => absurd hcode (hanswer code)⟩

theorem polls_reportExit (h : s.finished = true ∨ s.recorded.isSome = true) :
    s.Polls s.reportExit where
  advances := ⟨fun _ hs => hs, fun _ => rfl, fun _ => h⟩
  exited code hcode := by
    cases hcode
    exact ⟨rfl, rfl⟩

theorem polls_pollAfterExit (h : s.recorded.isSome = true) (first : Stream) (graceOver : Bool) :
    s.Polls (s.pollAfterExit first graceOver) := by
  have hline := onlyReads_pollLine first s
  unfold pollAfterExit
  split
  · next hpoll =>
    rw [hpoll] at hline
    exact hline.advances.polls nofun
  · next hpoll =>
    rw [hpoll] at hline
    exact hline.advances.polls nofun
  · next t hpoll =>
    rw [hpoll] at hline
    exact hline.polls (polls_reportExit (.inr (hline.recorded ▸ h)))
  · next t hpoll =>
    rw [hpoll] at hline
    split
    · exact hline.polls (polls_reportExit (.inr (hline.recorded ▸ h)))
    · exact hline.advances.polls nofun

/-- Taking the exit status changes none that was taken before, because there is none. -/
theorem polls_pollExit (h : s.recorded = none) (first : Stream) (graceOver : Bool) :
    s.Polls (s.pollExit first graceOver) := by
  unfold pollExit
  split
  · exact (Advances.refl s).polls nofun
  · exact (Advances.refl s).polls nofun
  · next status _ =>
    have htaken : s.Advances { s with recorded := some status } :=
      ⟨by simp [h], fun hs => hs, .inl⟩
    have hpolls := polls_pollAfterExit (s := { s with recorded := some status }) rfl first graceOver
    exact ⟨htaken.trans hpolls.advances, hpolls.exited⟩

theorem polls_pollLineThenExit (h : s.recorded = none) (first : Stream) (graceOver : Bool) :
    s.Polls (s.pollLineThenExit first graceOver) := by
  have hline := onlyReads_pollLine first s
  unfold pollLineThenExit
  split
  · next hpoll =>
    rw [hpoll] at hline
    exact hline.advances.polls nofun
  · next hpoll =>
    rw [hpoll] at hline
    exact hline.advances.polls nofun
  · next hpoll =>
    rw [hpoll] at hline
    exact hline.polls (polls_pollExit (hline.recorded.trans h) first graceOver)
  · next hpoll =>
    rw [hpoll] at hline
    exact hline.polls (polls_pollExit (hline.recorded.trans h) first graceOver)

theorem polls_pollEvent (s : ChildSession) (p : Preference) (graceOver : Bool) :
    s.Polls (s.pollEvent p graceOver) := by
  unfold pollEvent
  split
  · next hfinished => exact polls_reportExit (.inl hfinished)
  · split
    · next hrecorded => exact polls_pollAfterExit hrecorded p.stream graceOver
    · next hrecorded =>
      have hnone : s.recorded = none := by simpa using hrecorded
      split
      · exact polls_pollExit hnone p.stream graceOver
      · exact polls_pollLineThenExit hnone p.stream graceOver

/-- An exit that was reported is reported again at once. -/
theorem pollEvent_of_finished (h : s.finished = true) (p : Preference) (graceOver : Bool) :
    s.pollEvent p graceOver =
      (.ready (.ok (.exited (s.recorded.bind ExitStatus.code?))), s) := by
  have hsame : { s with finished := true } = s := by
    rw [← h]
  rw [pollEvent, if_pos h, reportExit, hsame]

/-! ### Calls -/

/-- A call that polls, from a session to what becomes of it. It may be given up at any time, and then
    has no answer; between its polls the session only `Keeps` what it has. -/
inductive Polled {α : Type} (poll : ChildSession → Poll α × ChildSession → Prop) :
    ChildSession → Option α → ChildSession → Prop
  | givenUp {s : ChildSession} : Polled poll s none s
  | outside {s t u : ChildSession} {a : Option α} (keeps : s.Keeps t) (rest : Polled poll t a u) :
      Polled poll s a u
  | pending {s t u : ChildSession} {a : Option α} (polled : poll s (.pending, t))
      (rest : Polled poll t a u) : Polled poll s a u
  | ready {s t : ChildSession} {a : α} (polled : poll s (.ready a, t)) : Polled poll s (some a) t

/-- One poll for the first line. -/
def AsksHandshake (s : ChildSession)
    (r : Poll (Except ProcessError (Option Text)) × ChildSession) : Prop := s.pollHandshake = r

/-- One poll for an event, whatever is taken first and whether or not the grace is over. -/
def AsksEvent (s : ChildSession) (r : Poll (Except ProcessError Event) × ChildSession) : Prop :=
  ∃ p graceOver, s.pollEvent p graceOver = r

/-- One poll for what is left, by a call that has found lines before. -/
def AsksRest (s : ChildSession) (r : Poll (Except ProcessError (List OutputLine)) × ChildSession) :
    Prop :=
  ∃ first found, drainLoop first (s.unread + 1) found s = r

/-- What a caller does and what it is told; there is no answer to a call that was given up. -/
inductive Use where
  | handshake (answer : Option (Except ProcessError (Option Text)))
  | event (answer : Option (Except ProcessError Event))
  | drain (answer : Option (Except ProcessError (List OutputLine)))
  /-- `signalled` says whether the child and its helpers were signalled. -/
  | kill (signalled : Bool) (answer : Option (Except ProcessError Unit))
  | pid (answer : Option Nat)

/-- The calls of a session. Killing signals first and then waits for the child, which may come to
    nothing in time. -/
inductive Makes : ChildSession → Use → ChildSession → Prop
  | handshake {s t : ChildSession} {a : Option (Except ProcessError (Option Text))}
      (polled : Polled AsksHandshake s a t) : Makes s (.handshake a) t
  | event {s t : ChildSession} {a : Option (Except ProcessError Event)}
      (polled : Polled AsksEvent s a t) : Makes s (.event a) t
  | drain {s t : ChildSession} {a : Option (Except ProcessError (List OutputLine))}
      (polled : Polled AsksRest s a t) : Makes s (.drain a) t
  | kill {s t : ChildSession} {waited : Option Waited} (waits : s.Keeps t)
      (came : ∀ w, waited = some w → t.exit = some w) :
      Makes s (.kill (s.kill waited).signalled (some (t.kill waited).answer)) (t.kill waited).session
  | killGivenUp {s t : ChildSession} (waits : s.Keeps t) :
      Makes s (.kill (s.kill none).signalled none) t
  | pid {s : ChildSession} : Makes s (.pid s.pid) s

/-- Calls one after the other, from a session to what becomes of it. -/
inductive Uses : ChildSession → List Use → ChildSession → Prop
  | nil {s : ChildSession} : Uses s [] s
  | outside {s t u : ChildSession} {xs : List Use} (keeps : s.Keeps t) (rest : Uses t xs u) :
      Uses s xs u
  | call {s t u : ChildSession} {x : Use} {xs : List Use} (makes : Makes s x t)
      (rest : Uses t xs u) : Uses s (x :: xs) u

theorem Polled.advances {α : Type} {poll : ChildSession → Poll α × ChildSession → Prop}
    (hpoll : ∀ s r, poll s r → s.Advances r.2) {a : Option α} (h : Polled poll s a t) :
    s.Advances t := by
  induction h with
  | givenUp => exact .refl _
  | outside keeps _ ih => exact keeps.advances.trans ih
  | pending polled _ ih => exact (hpoll _ _ polled).trans ih
  | ready polled => exact hpoll _ _ polled

theorem AsksHandshake.advances {r : Poll (Except ProcessError (Option Text)) × ChildSession}
    (h : s.AsksHandshake r) : s.Advances r.2 := h ▸ (onlyReads_pollHandshake s).advances

theorem AsksEvent.polls {r : Poll (Except ProcessError Event) × ChildSession}
    (h : s.AsksEvent r) : s.Polls r := by
  obtain ⟨p, graceOver, rfl⟩ := h
  exact polls_pollEvent s p graceOver

theorem AsksRest.advances {r : Poll (Except ProcessError (List OutputLine)) × ChildSession}
    (h : s.AsksRest r) : s.Advances r.2 := by
  obtain ⟨first, found, rfl⟩ := h
  exact (onlyReads_drainLoop first _ found s).advances

/-- Killing takes the exit status only if none was taken before. -/
theorem advances_kill (s : ChildSession) (waited : Option Waited) :
    s.Advances (s.kill waited).session := by
  unfold kill
  split
  · exact .refl s
  · next status hnone => exact ⟨by simp [hnone], fun hs => hs, .inl⟩
  · exact .refl s
  · exact .refl s

theorem Makes.advances {x : Use} (h : Makes s x t) : s.Advances t := by
  cases h with
  | handshake polled => exact polled.advances fun _ _ h => h.advances
  | event polled => exact polled.advances fun _ _ h => h.polls.advances
  | drain polled => exact polled.advances fun _ _ h => h.advances
  | kill waits _ => exact waits.advances.trans (advances_kill _ _)
  | killGivenUp waits => exact waits.advances
  | pid => exact .refl s

theorem Uses.advances {xs : List Use} (h : Uses s xs t) : s.Advances t := by
  induction h with
  | nil => exact .refl _
  | outside keeps _ ih => exact keeps.advances.trans ih
  | call makes _ ih => exact makes.advances.trans ih

/-! ### Exits that were reported -/

/-- A session that comes after one that reports only what was taken does so too. -/
theorem Advances.taken_of_finished (h : s.Advances t)
    (hs : s.finished = true → s.recorded.isSome = true) (ht : t.finished = true) :
    t.recorded.isSome = true := by
  rcases h.taken ht with hfinished | htaken
  · obtain ⟨status, hstatus⟩ := Option.isSome_iff_exists.1 (hs hfinished)
    rw [h.recorded status hstatus]
    rfl
  · exact htaken

/-- The exit that a call reports is the one that the session has taken. -/
theorem Polled.exited {code : Option Int}
    (h : Polled AsksEvent s (some (.ok (.exited code))) t) :
    t.finished = true ∧ t.recorded.bind ExitStatus.code? = code := by
  generalize ha : some (Except.ok (Event.exited code)) = a at h
  induction h with
  | givenUp => cases ha
  | outside _ _ ih => exact ih ha
  | pending _ _ ih => exact ih ha
  | ready polled =>
    cases ha
    exact polled.polls.exited code rfl

/-- A session that has reported an exit answers with it, unless the call is given up. -/
theorem Polled.eq_of_finished {a : Except ProcessError Event} (h : Polled AsksEvent s (some a) t)
    (hs : s.finished = true) : a = .ok (.exited (s.recorded.bind ExitStatus.code?)) := by
  generalize ha : some a = answer at h
  induction h with
  | givenUp => cases ha
  | outside keeps _ ih =>
    rw [← keeps.recorded]
    exact ih (keeps.finished.trans hs) ha
  | pending polled _ _ =>
    obtain ⟨p, graceOver, hpoll⟩ := polled
    rw [pollEvent_of_finished hs] at hpoll
    cases hpoll
  | ready polled =>
    obtain ⟨p, graceOver, hpoll⟩ := polled
    rw [pollEvent_of_finished hs] at hpoll
    cases hpoll
    exact Option.some.inj ha

/-- The session has reported an exit with a code, and took its status. -/
structure Exited (s : ChildSession) (code : Option Int) : Prop where
  finished : s.finished = true
  taken : ∃ status, s.recorded = some status ∧ status.code? = code

theorem Exited.advances {code : Option Int} (h : s.Exited code) (h' : s.Advances t) :
    t.Exited code := by
  obtain ⟨status, hstatus, hcode⟩ := h.taken
  exact ⟨h'.finished h.finished, status, h'.recorded status hstatus, hcode⟩

theorem Exited.code_eq {code : Option Int} (h : s.Exited code) :
    s.recorded.bind ExitStatus.code? = code := by
  obtain ⟨status, hstatus, hcode⟩ := h.taken
  rw [hstatus]
  exact hcode

theorem Makes.exited {code : Option Int} (h : Makes s (.event (some (.ok (.exited code)))) t)
    (hs : s.finished = true → s.recorded.isSome = true) : t.Exited code := by
  cases h with
  | event polled =>
    obtain ⟨hfinished, hcode⟩ := polled.exited
    have hadvances := polled.advances fun _ _ h => h.polls.advances
    obtain ⟨status, hstatus⟩ :=
      Option.isSome_iff_exists.1 (hadvances.taken_of_finished hs hfinished)
    rw [hstatus] at hcode
    exact ⟨hfinished, status, hstatus, hcode⟩

/-- Every event that is reported later is that exit. -/
theorem Exited.uses {code : Option Int} {xs : List Use} (h : s.Exited code) (h' : Uses s xs t)
    {a : Except ProcessError Event} (ha : Use.event (some a) ∈ xs) : a = .ok (.exited code) := by
  induction h' with
  | nil => cases ha
  | outside keeps _ ih => exact ih (h.advances keeps.advances) ha
  | call makes _ ih =>
    rcases List.mem_cons.1 ha with rfl | ha
    · cases makes with
      | event polled => rw [polled.eq_of_finished h.finished, h.code_eq]
    · exact ih (h.advances makes.advances) ha

/-! ### Killing -/

theorem signalled_kill (s : ChildSession) (waited : Option Waited) :
    (s.kill waited).signalled = s.groupMayBeAlive := by
  unfold kill
  split <;> rfl

theorem recorded_kill_of_ok {waited : Option Waited} (h : (s.kill waited).answer = .ok ()) :
    (s.kill waited).session.recorded.isSome = true := by
  unfold kill at h ⊢
  split at h
  · next hstatus => simp [hstatus]
  · simp
  · cases h
  · cases h

/-- A kill that fails has found the child still there, and changes nothing. -/
theorem kill_of_error {waited : Option Waited} {e : ProcessError}
    (h : (s.kill waited).answer = .error e) :
    s.recorded = none ∧ (s.kill waited).session = s := by
  unfold kill at h ⊢
  split at h
  · cases h
  · cases h
  · exact ⟨by assumption, rfl⟩
  · exact ⟨by assumption, rfl⟩

/-- Killing signals and takes the exit status as long as there is none. -/
theorem kill_of_recorded_none (h : s.recorded = none) (status : ExitStatus) :
    s.kill (some (.ended status)) = ⟨true, .ok (), { s with recorded := some status }⟩ := by
  simp [kill, groupMayBeAlive, h]

theorem Makes.recorded_of_killed {signalled : Bool}
    (h : Makes s (.kill signalled (some (.ok ()))) t) : t.recorded.isSome = true := by
  generalize hx : Use.kill signalled (some (.ok ())) = x at h
  cases h with
  | kill waits came =>
    injection hx with _ hanswer
    exact recorded_kill_of_ok (Option.some.inj hanswer).symm
  | _ => cases hx

theorem Makes.keeps_of_not_killed {signalled : Bool} {e : ProcessError}
    (h : Makes s (.kill signalled (some (.error e))) t) : s.Keeps t ∧ t.recorded = none := by
  generalize hx : Use.kill signalled (some (.error e)) = x at h
  cases h with
  | kill waits came =>
    injection hx with _ hanswer
    obtain ⟨hnone, hsame⟩ := kill_of_error (Option.some.inj hanswer).symm
    rw [hsame]
    exact ⟨waits, hnone⟩
  | _ => cases hx

theorem Makes.mayBeAlive {signalled : Bool} {a : Option (Except ProcessError Unit)}
    (h : Makes s (.kill signalled a) t) : signalled = s.groupMayBeAlive := by
  cases h with
  | kill => exact signalled_kill _ _
  | killGivenUp => exact signalled_kill _ _

theorem groupMayBeAlive_iff :
    s.groupMayBeAlive = true ↔ ¬ (s.recorded.isSome = true ∧ s.bothEnded = true) := by
  cases h : s.recorded <;> simp [groupMayBeAlive, h]

/-! ### Whatever a session is used for -/

/-- However a session is used and whatever its child does: an exit is reported only once its status
    was taken; the id is gone exactly then; a status stays; an exit that was reported is the answer
    to every later call for an event, at its first poll; a kill takes the status or leaves the
    session as it was, so that the next one signals again and can take it; and nothing is signalled
    when the status was taken and both pipes have ended. -/
theorem uses_keep_exit {id limit : Nat} {xs : List Use} (h : Uses (start id limit) xs s) :
    (s.finished = true → s.recorded.isSome = true) ∧
    (s.pid = none ↔ s.recorded.isSome = true) ∧
    (∀ ys t status, Uses s ys t → s.recorded = some status → t.recorded = some status) ∧
    (∀ t code, Makes s (.event (some (.ok (.exited code)))) t → ∀ ys u, Uses t ys u →
      (∀ p graceOver, u.pollEvent p graceOver = (.ready (.ok (.exited code)), u)) ∧
      ∀ a, Use.event (some a) ∈ ys → a = .ok (.exited code)) ∧
    (∀ t signalled, Makes s (.kill signalled (some (.ok ()))) t → t.recorded.isSome = true) ∧
    (∀ t signalled e, Makes s (.kill signalled (some (.error e))) t → s.Keeps t ∧
      ∀ status, t.kill (some (.ended status)) =
        ⟨true, .ok (), { t with recorded := some status }⟩) ∧
    (∀ t a, Makes s (.kill true a) t → ¬ (s.recorded.isSome = true ∧ s.bothEnded = true)) ∧
    (s.signalsWhenDropped = true → ¬ (s.recorded.isSome = true ∧ s.bothEnded = true)) := by
  have hsound : s.finished = true → s.recorded.isSome = true :=
    h.advances.taken_of_finished nofun
  refine ⟨hsound, ?_, ?_, ?_, ?_, ?_, ?_, ?_⟩
  · unfold pid
    cases s.recorded <;> simp
  · intro ys t status huses hs
    exact huses.advances.recorded status hs
  · intro t code hexit ys u huses
    have hexited := hexit.exited hsound
    have hlater := hexited.advances huses.advances
    refine ⟨fun p graceOver => ?_, fun a ha => hexited.uses huses ha⟩
    rw [pollEvent_of_finished hlater.finished, hlater.code_eq]
  · intro t signalled hkill
    exact hkill.recorded_of_killed
  · intro t signalled e hkill
    obtain ⟨hkeeps, hnone⟩ := hkill.keeps_of_not_killed
    exact ⟨hkeeps, kill_of_recorded_none hnone⟩
  · intro t a hkill
    exact groupMayBeAlive_iff.1 hkill.mayBeAlive.symm
  · intro hsignals
    have hnone : s.recorded = none := by simpa [signalsWhenDropped] using hsignals
    simp [hnone]

/-- A child that exits with code 3 while a helper holds its pipes, is asked for its exit after the
    grace, and is then killed. -/
theorem uses_keep_exit_helper :
    let p : Preference := ⟨true, .stdout⟩
    let s : ChildSession :=
      { start 7 16 with
        exit := some (.ended (.exited 3)), recorded := some (.exited 3), finished := true }
    Uses (start 7 16) [.event (some (.ok (.exited (some 3)))), .kill true (some (.ok ()))] s ∧
      s.pid = none ∧ s.pollEvent p false = (.ready (.ok (.exited (some 3))), s) := by
  intro p s
  have hexit : (start 7 16).Keeps { start 7 16 with exit := some (.ended (.exited 3)) } :=
    .exit _ _
  have hevent : Makes { start 7 16 with exit := some (.ended (.exited 3)) }
      (.event (some (.ok (.exited (some 3))))) s := .event (.ready ⟨p, true, rfl⟩)
  have hlate : ∀ w, (none : Option Waited) = some w → s.exit = some w := nofun
  have hkill : Makes s (.kill true (some (.ok ()))) s := .kill (.refl s) hlate
  have hbefore : Uses (start 7 16) [] { start 7 16 with exit := some (.ended (.exited 3)) } :=
    .outside hexit .nil
  have hafter : Uses s [.kill true (some (.ok ()))] s := .call hkill .nil
  have hall : Uses (start 7 16) [.event (some (.ok (.exited (some 3)))),
      .kill true (some (.ok ()))] s := .outside hexit (.call hevent hafter)
  refine ⟨hall, ?_, ?_⟩
  · exact (uses_keep_exit hall).2.1.2 rfl
  · exact ((uses_keep_exit hbefore).2.2.2.1 s (some 3) hevent _ s hafter).1 p false

end Overseer.ChildSession
