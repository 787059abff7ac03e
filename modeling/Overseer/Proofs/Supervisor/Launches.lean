import Overseer.Proofs.Supervisor.CallOrder

/-! ## What a run starts

A run asks its host once to start something, which is its invocation, whether that succeeds or not.
What a host was asked is told by any reading of its world that grows with each launch and with no
other call. -/

namespace Overseer

variable {σ : Type}

namespace Host

/-- `asked` tells what a host was asked to start. -/
structure Notes (host : Host σ) (asked : σ → List Invocation) : Prop where
  launch : ∀ i w, asked (host.launch i w).2 = asked w ++ [i]
  handshake : ∀ w, asked (host.handshake w).2 = asked w
  nextEvent : ∀ w, asked (host.nextEvent w).2 = asked w
  drain : ∀ w, asked (host.drain w).2 = asked w
  kill : ∀ w, asked (host.kill w).2 = asked w

/-- A host that also writes down what it is asked to start. -/
def noting (host : Host σ) : Host (σ × List Invocation) where
  launch i w := ((host.launch i w.1).1, (host.launch i w.1).2, w.2 ++ [i])
  handshake w := ((host.handshake w.1).1, (host.handshake w.1).2, w.2)
  nextEvent w := ((host.nextEvent w.1).1, (host.nextEvent w.1).2, w.2)
  drain w := ((host.drain w.1).1, (host.drain w.1).2, w.2)
  kill w := ((host.kill w.1).1, (host.kill w.1).2, w.2)
  pid w := host.pid w.1

theorem notes_noting (host : Host σ) : host.noting.Notes Prod.snd where
  launch _ _ := rfl
  handshake _ := rfl
  nextEvent _ := rfl
  drain _ := rfl
  kill _ := rfl

end Host

namespace Supervisor

open Progress

variable {host : Host σ} {c : Classifier} {deadline fuel : Nat} {i : Invocation} {w : σ}
  {p k : Progress σ} {ph : Phase} {r : RunReport σ} {asked : σ → List Invocation}

/-- Nothing is started between launch and kill. -/
theorem Supervises.launches (h : Supervises host c deadline fuel p ph k) (notes : host.Notes asked) :
    asked k.world = asked p.world := by
  refine h.world (I := fun w => asked w = asked p.world) ?_ ?_ ?_ rfl
  · exact fun w hw => (notes.handshake w).trans hw
  · exact fun w hw => (notes.nextEvent w).trans hw
  · exact fun w hw => (notes.drain w).trans hw

theorem world_killed (d : Nat) (a : Except ProcessError Unit) (w : σ) :
    (killed host d a w p).world = w := by
  cases a <;> rfl

/-- A run has its invocation started, and nothing else. -/
theorem Runs.launches (h : Runs host c fuel i w r) (notes : host.Notes asked) :
    asked r.world = asked w ++ [i] := by
  cases h with
  | unlaunched _ => exact notes.launch i w
  | @supervised d d' a ph k _ course _ =>
    change asked (killed host d' a (host.kill k.world).2 (k.move ph)).world = asked w ++ [i]
    rw [world_killed, notes.kill, course.launches notes]
    exact notes.launch i w

end Supervisor

end Overseer
