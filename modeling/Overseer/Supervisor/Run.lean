import Overseer.Supervisor.Progress

/-! ## Supervising a run

A run launches the child, waits for the line that says that the input was compiled, and then reads
the child's lines up to one that decides. Whatever happens after the launch, the child is killed
before the run ends. The budget bounds everything but the launch and the kill; that a run was late
or the child failed is a result like any other. -/

namespace Overseer

/-- What a run did and what came of it. -/
structure RunReport (σ : Type) where
  result : Except Fault RunResult
  /-- The calls it made, in order. -/
  calls : List Call
  /-- Its records, in order. -/
  records : List Record
  /-- How long it took, in milliseconds. -/
  elapsed : Nat
  world : σ

/-- How a run went. -/
inductive Outcome (σ : Type) where
  /-- The time at which the budget would run out is later than clocks can show. -/
  | overflow
  /-- A call that has no deadline never answered, or more events were read than allowed. -/
  | unfinished
  | finished (r : RunReport σ)

namespace Supervisor

/-- Stands in the line that the child prints about compiling its input. -/
def compileMark : Text := "Trying to compile".toList

/-- Stands in that line if compiling went well. -/
def okMark : Text := "OK".toList

/-- Whether the first line says that the input was compiled. -/
def acceptsHandshake : Option Text → Bool
  | none => false
  | some line => compileMark.occursIn line && okMark.occursIn line

/-- The first time, in milliseconds, that clocks cannot show. -/
def clockEnd : Nat := 1000 * 0x8000000000000000

variable {σ : Type}

/-- A run that is over but for killing the child. -/
structure Ending (σ : Type) where
  result : Except Fault RunResult
  progress : Progress σ

/-- Enters a terminal phase and makes the result for it. -/
def conclude (q : Phase) (p : Progress σ) : Ending σ :=
  match p.enter q with
  | .error fault => ⟨.error fault, p⟩
  | .ok p => ⟨.ok (.ofStatus (p.phase.status?.getD .error) p.findings), p⟩

-- ---------------------------------------------------------------------------
-- Streaming
-- ---------------------------------------------------------------------------

/-- Reads events until one decides or the budget has run out, but at most as many as `fuel`. -/
def stream (host : Host σ) (classifier : Classifier) (deadline : Nat) :
    Nat → Progress σ → Option (Ending σ)
  | 0, _ => none
  | fuel + 1, p =>
    if deadline ≤ p.clock then some (conclude .timedOut (p.note .timeout))
    else
      match p.callWithin deadline .nextEvent host.nextEvent with
      | (.expired, p) => some (conclude .timedOut (p.note .timeout))
      | (.answered (.error e), p) => some (conclude .error (p.note (.readFailed e)))
      | (.answered (.ok (.exited code)), p) => some (conclude .error (p.note (.exited code)))
      | (.answered (.ok (.line l)), p) =>
        let c := classifier.classify l.text
        let p := (p.note (.output l)).addFindings c.findings
        match Signal.detect l.text c with
        | .none => stream host classifier deadline fuel p
        | .unsupportedFeature => some (conclude .unknown (p.note (.unsupportedFeature l.text)))
        | .unclassifiedError => some (conclude .error (p.note (.unclassifiedError l.text)))
        | .completion => some (conclude .completed (p.note (.completion l.text)))

-- ---------------------------------------------------------------------------
-- Handshake
-- ---------------------------------------------------------------------------

/-- Notes what a child whose handshake was rejected still prints. -/
def noteRest (host : Host σ) (deadline : Nat) (p : Progress σ) : Progress σ :=
  match p.callWithin deadline .drain host.drain with
  | (.expired, p) => p.note .drainTimeout
  | (.answered (.error e), p) => p.note (.drainFailed e)
  | (.answered (.ok lines), p) => p.noteLeftovers lines

/-- Everything between launching the child and killing it. -/
def supervise (host : Host σ) (classifier : Classifier) (deadline fuel : Nat) (p : Progress σ) :
    Option (Ending σ) :=
  match p.enter .compilingInput with
  | .error fault => some ⟨.error fault, p⟩
  | .ok p =>
    match p.callWithin deadline .handshake host.handshake with
    | (.expired, p) => some (conclude .timedOut (p.note .handshakeTimeout))
    | (.answered (.error e), p) => some (conclude .error (p.note (.handshakeFailed e)))
    | (.answered (.ok line), p) =>
      if acceptsHandshake line then
        match (p.note (.handshakeAccepted (host.pid p.world))).enter .streaming with
        | .error fault => some ⟨.error fault, p⟩
        | .ok p => stream host classifier deadline fuel p
      else some (conclude .error (noteRest host deadline (p.note (.handshakeRejected line))))

-- ---------------------------------------------------------------------------
-- Runs
-- ---------------------------------------------------------------------------

def report (e : Ending σ) : RunReport σ :=
  ⟨e.result, e.progress.calls.reverse, e.progress.records.reverse, e.progress.clock,
    e.progress.world⟩

/-- Kills the child and notes the result. -/
def cleanUp (host : Host σ) (e : Ending σ) : Option (Ending σ) :=
  match e.progress.callUntilDone .kill host.kill with
  | none => none
  | some (killed, p) =>
    let p := match killed with
      | .ok () => p
      | .error cause => p.note (.killFailed cause (host.pid p.world))
    match e.result with
    | .error fault => some ⟨.error fault, p⟩
    | .ok r => some ⟨.ok r, p.note (.finished r.status r.findings.size p.clock)⟩

/-- A run from launching the child to its end, with the deadline given. -/
def runUntil (host : Host σ) (classifier : Classifier) (fuel : Nat) (i : Invocation)
    (deadline : Nat) (world : σ) : Option (Ending σ) :=
  let p := (Progress.start world).note (.starting i.commandLine i.budgetSeconds)
  match p.callUntilDone .launch (host.launch i) with
  | none => none
  | some (.error e, p) => some (conclude .error (p.note (.launchFailed e)))
  | some (.ok (), p) =>
    match supervise host classifier deadline fuel p with
    | none => none
    | some e => cleanUp host e

/-- Runs an invocation in a world, where `clock` is the time at which the run begins and `fuel` the
    number of events that may be read. -/
def run (host : Host σ) (classifier : Classifier) (clock fuel : Nat) (i : Invocation) (world : σ) :
    Outcome σ :=
  if clockEnd ≤ clock + i.budget then .overflow
  else
    match runUntil host classifier fuel i i.budget world with
    | none => .unfinished
    | some e => .finished (report e)

/-- Runs invocations one after the other, each in the world that the one before left. -/
def runAll (host : Host σ) (classifier : Classifier) (clock fuel : Nat) :
    List Invocation → σ → List (Outcome σ)
  | [], _ => []
  | i :: rest, world =>
    match run host classifier clock fuel i world with
    | .finished r => .finished r :: runAll host classifier clock fuel rest r.world
    | outcome => [outcome]

end Supervisor

end Overseer
