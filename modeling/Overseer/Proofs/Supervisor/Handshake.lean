import Overseer.Proofs.Supervisor.Journal
import Overseer.Proofs.Text.Cutting

/-! ## Handshakes that name their input

The first line of a child names its input and then says what came of compiling it. The supervisor
looks for its marks anywhere in that line, so it accepts the line if the mark of success stands in
either of the two. A line that has it in neither is rejected: the run is an error, reads no event, and
drains what the child has left. -/

namespace Overseer.Supervisor

variable {σ : Type} {host : Host σ} {c : Classifier} {clock fuel L d : Nat} {i : Invocation} {w : σ}
  {r : RunReport σ} {name verdict mark : Text} {line : Option Text}

/-! ### The line about compiling -/

/-- The line about compiling an input, with what came of it. -/
def compileLine (name verdict : Text) : Text :=
  compileMark ++ ' ' :: (name ++ " ... ".toList ++ verdict)

example : compileLine "foo.bc".toList "OK".toList = "Trying to compile foo.bc ... OK".toList := by
  decide

/-- A mark without a blank stands in one of the words of the line, in the name or in the verdict. -/
theorem infix_compileLine_iff (blank : ' ' ∉ mark) :
    mark <:+: compileLine name verdict ↔
      (mark <:+: "Trying".toList ∨ mark <:+: "to".toList ∨ mark <:+: "compile".toList) ∨
        mark <:+: name ∨ mark <:+: "...".toList ∨ mark <:+: verdict := by
  have hmark : compileMark =
      "Trying".toList ++ ' ' :: ("to".toList ++ ' ' :: "compile".toList) := by
    decide
  have hdots : " ... ".toList = ' ' :: ("...".toList ++ [' ']) := by decide
  have hline : name ++ " ... ".toList ++ verdict =
      name ++ ' ' :: ("...".toList ++ ' ' :: verdict) := by
    rw [hdots, List.append_assoc, List.cons_append, List.append_assoc, List.singleton_append]
  unfold compileLine
  rw [hline, Text.infix_append_cons_iff blank, hmark, Text.infix_append_cons_iff blank,
    Text.infix_append_cons_iff blank, Text.infix_append_cons_iff blank,
    Text.infix_append_cons_iff blank]

/-- The mark of success is looked for in the name as well as in the verdict. -/
theorem acceptsHandshake_compileLine :
    acceptsHandshake (some (compileLine name verdict)) = true ↔
      okMark <:+: name ∨ okMark <:+: verdict := by
  have compiled : compileMark <:+: compileLine name verdict := by
    rw [compileLine]
    exact (List.prefix_append _ _).isInfix
  have blank : ' ' ∉ okMark := by decide
  have words : ¬ (okMark <:+: "Trying".toList ∨ okMark <:+: "to".toList ∨
      okMark <:+: "compile".toList) := by
    simp only [← Text.occursIn_iff]
    decide
  have dots : ¬ okMark <:+: "...".toList := by
    rw [← Text.occursIn_iff]
    decide
  have found : okMark <:+: compileLine name verdict ↔ okMark <:+: name ∨ okMark <:+: verdict := by
    rw [infix_compileLine_iff blank, or_iff_right words, or_iff_right dots]
  rw [acceptsHandshake_iff, ← found]
  exact ⟨fun ⟨_, hline, _, hok⟩ => Option.some.inj hline ▸ hok, fun hok => ⟨_, rfl, compiled, hok⟩⟩

/-! ### Runs whose handshake is rejected -/

/-- The run is an error that asked for no event and drained what was left. If that came in time, it
    is noted. -/
structure Rejected (host : Host σ) (i : Invocation) (w : σ) (r : RunReport σ) : Prop where
  result : r.result = .ok (.ofStatus .error .empty)
  calls : r.calls = [.launch, .handshake, .drain, .kill]
  leftovers : ∀ ls, host.Leaves i w ls → r.records.filterMap Record.leftover? = ls

/-- Whatever else the child does, a run that reads a first line in time and rejects it ends so. -/
theorem rejected_of_finished (launch : (host.launch i w).1 = .after L (.ok ()))
    (reply : (host.handshake (host.launched i w)).1 = .after d (.ok line))
    (opened : (host.timeline i w).OpensInTime i.budget) (bad : acceptsHandshake line = false)
    (h : run host c clock fuel i w = .finished r) : Rejected host i w r := by
  have hruns := (run_eq_finished_iff.1 h).2
  have launched : (host.timeline i w).launch.Succeeds := ⟨L, (), launch⟩
  have read : (host.timeline i w).handshake.Succeeds := ⟨d, line, reply⟩
  have hbad : ¬ (host.timeline i w).Compiles := by
    rw [compiles_iff reply, bad]
    exact Bool.false_ne_true
  refine ⟨?_, ?_, fun ls hls => ?_⟩
  · obtain ⟨v, hv, verdict⟩ := hruns.verdict launched
    rw [hv, verdict.unique (.rejected opened hbad)]
  · have horder := hruns.calls
    generalize r.calls = calls at horder
    cases horder with
    | unlaunched failed => exact absurd failed launched.not_fails
    | unread _ unread =>
      rcases unread with late | failed
      · exact absurd opened late
      · exact absurd failed read.not_fails
    | rejected _ _ _ _ => rfl
    | streamed _ _ good _ => exact absurd good hbad
  · obtain ⟨_, _, _, _, _, _, _, course, -, -, closing⟩ := hruns.closing launch
    obtain ⟨_, left, hk, -, hleft⟩ := course.reports launch
    rw [closing.leftovers hk]
    rcases hleft with ⟨⟨-, -, -, e, hdrain, -⟩, -⟩ | ⟨-, hnone⟩
    · obtain ⟨-, -, -, e', hdrain', -⟩ := hls
      cases hdrain.symm.trans hdrain'
      rfl
    · exact absurd hls (hnone ls)

/-- Such a run comes to an end if clocks can show its deadline and the kill returns. -/
theorem exists_run_of_rejected (noOverflow : clock + i.budget < clockEnd)
    (launch : (host.launch i w).1 = .after L (.ok ()))
    (reply : (host.handshake (host.launched i w)).1 = .after d (.ok line))
    (opened : (host.timeline i w).OpensInTime i.budget) (bad : acceptsHandshake line = false)
    (kill : ∀ w, (host.kill w).1 ≠ .never) : ∃ r, run host c clock fuel i w = .finished r := by
  have inTime := (inTime_handshake_iff launch).2 opened
  have course : ∃ ph k, Supervises host c i.budget fuel (launched host i w L) ph k :=
    ⟨_, _, .rejected reply inTime bad⟩
  obtain ⟨ph, k, course⟩ := course
  match hkill : (host.kill k.world).1 with
  | .never => exact absurd hkill (kill k.world)
  | .after _ _ => exact ⟨_, run_eq_finished_iff.2 ⟨noOverflow, .supervised launch course hkill⟩⟩

/-- A line about compiling is accepted exactly if the mark of success stands in the name of the input
    or in the verdict. So if neither has it, a run that reads the line in time is an error, asks for
    no event and drains what is left; and it does come to an end if clocks can show its deadline and
    the kill returns. -/
theorem handshake_of_compileLine (name verdict : Text) :
    (acceptsHandshake (some (compileLine name verdict)) = true ↔
      okMark <:+: name ∨ okMark <:+: verdict) ∧
    ∀ {σ : Type} (host : Host σ) (c : Classifier) (clock fuel L d : Nat) (i : Invocation) (w : σ),
      (host.launch i w).1 = .after L (.ok ()) →
      (host.handshake (host.launched i w)).1 = .after d (.ok (some (compileLine name verdict))) →
      (host.timeline i w).OpensInTime i.budget → ¬ okMark <:+: name → ¬ okMark <:+: verdict →
      (∀ r, run host c clock fuel i w = .finished r → Rejected host i w r) ∧
        (clock + i.budget < clockEnd → (∀ w, (host.kill w).1 ≠ .never) →
          ∃ r, run host c clock fuel i w = .finished r) := by
  refine ⟨acceptsHandshake_compileLine, ?_⟩
  intro σ host c clock fuel L d i w launch reply opened hname hverdict
  have bad : acceptsHandshake (some (compileLine name verdict)) = false := by
    rw [← Bool.not_eq_true, acceptsHandshake_compileLine]
    exact not_or.2 ⟨hname, hverdict⟩
  exact ⟨fun r => rejected_of_finished launch reply opened bad,
    fun noOverflow => exists_run_of_rejected noOverflow launch reply opened bad⟩

/-- A child that cannot compile its input and says why. -/
theorem handshake_of_compileLine_failed :
    let line := compileLine "foo.bc".toList "FAILED".toList
    let left : List OutputLine := [⟨.stderr, "no such file".toList⟩]
    let s : Script := ⟨.after 3 (.ok ()), .after 2 (.ok (some line)),
      [.now (.line ⟨.stdout, "clEasyRun() took 1 s".toList⟩)], .after 1 (.ok left), .now ()⟩
    let i : Invocation := ⟨"slllvm".toList, [], [], 10⟩
    (¬ okMark <:+: "foo.bc".toList ∧ ¬ okMark <:+: "FAILED".toList ∧
      ((Script.host 7).timeline i s).OpensInTime i.budget) ∧
      ∃ r, run (Script.host 7) .builtin 0 1 i s = .finished r ∧
        Rejected (Script.host 7) i s r := by
  intro line left s i
  have hname : ¬ okMark <:+: "foo.bc".toList := by
    rw [← Text.occursIn_iff]
    decide
  have hverdict : ¬ okMark <:+: "FAILED".toList := by
    rw [← Text.occursIn_iff]
    decide
  have launch : ((Script.host 7).launch i s).1 = .after 3 (.ok ()) := rfl
  have opened : ((Script.host 7).timeline i s).OpensInTime i.budget :=
    (inTime_handshake_iff launch).1 (Reply.inTime_after.2 (.inr (by decide)))
  obtain ⟨hall, -⟩ := (handshake_of_compileLine "foo.bc".toList "FAILED".toList).2 (Script.host 7)
    .builtin 0 1 3 2 i s launch rfl opened hname hverdict
  obtain ⟨r, h⟩ : ∃ r, run (Script.host 7) .builtin 0 1 i s = .finished r := ⟨_, rfl⟩
  exact ⟨⟨hname, hverdict, opened⟩, r, h, hall r h⟩

/-- A name with the mark of success in it makes up for a verdict without: the run goes on as if the
    input had been compiled, asks for an event and drains nothing. -/
theorem not_handshake_of_verdict :
    (¬ ∀ name verdict : Text, '\n' ∉ name →
      (acceptsHandshake (some (compileLine name verdict)) = true ↔ okMark <:+: verdict)) ∧
    let line := compileLine "OK.bc".toList "FAILED".toList
    let s : Script := ⟨.now (), .now (some line), [], .now [], .now ()⟩
    ∃ r, run (Script.host 7) .builtin 0 1 ⟨"slllvm".toList, [], [], 10⟩ s = .finished r ∧
      r.calls = [.launch, .handshake, .nextEvent, .kill] := by
  refine ⟨fun h => ?_, _, rfl, rfl⟩
  have hiff := h "OK.bc".toList "FAILED".toList (by decide)
  rw [← Text.occursIn_iff] at hiff
  revert hiff
  decide

end Overseer.Supervisor
