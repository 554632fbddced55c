/-
# Sessions

Any number of operations on one connection, one after the other.  An operation that fails does not
end the session; the last reply is kept for decoding until the next one is read.
-/
import VersionProbe.Connection

namespace VersionProbe

/-- A connection and the last reply that was read over it. -/
structure Session where
  connection : Connection
  last : Reply

/-- What can be done in a session. -/
inductive Action
  /-- Write a frame. -/
  | send (frame : List UInt8)
  /-- Read a reply. -/
  | read
  /-- Write a frame and read the reply. -/
  | exchange (frame : List UInt8)
  /-- Decode the last reply. -/
  | decode
  /-- Let time pass and the device come by more answers. -/
  | feed (supply : Device.Supply)

/-- What an operation that succeeds yields. -/
inductive Answer
  | done
  | reply (r : Reply)
  | version (v : LocalVersion)
deriving DecidableEq

namespace Session

/-- A session that begins, with no reply read yet. -/
def ofConnection (c : Connection) : Session :=
  ⟨c, .empty⟩

/-- A session that begins over a device that is open already. -/
def start (config : Config) (device : Device) : Session :=
  ofConnection (.ofDevice config device)

/-- The session after a read: its reply is the last one, and after a failure there is none. -/
def afterReading (o : Outcome Connection ProbeError Reply) :
    Outcome Session ProbeError Answer :=
  match o.result with
  | .ok r => ⟨.ok (.reply r), ⟨o.state, r⟩, o.trace⟩
  | .error e => ⟨.error e, ⟨o.state, .empty⟩, o.trace⟩

/-- Keeping the reply leaves the connection as the read left it. -/
@[simp] theorem afterReading_connection (o : Outcome Connection ProbeError Reply) :
    (afterReading o).state.connection = o.state := by
  rw [afterReading]
  split <;> rfl

/-- Keeping the reply has no effect on the world. -/
@[simp] theorem afterReading_trace (o : Outcome Connection ProbeError Reply) :
    (afterReading o).trace = o.trace := by
  rw [afterReading]
  split <;> rfl

/-- The answer to a read is its reply. -/
@[simp] theorem afterReading_result (o : Outcome Connection ProbeError Reply) :
    (afterReading o).result = o.result.map .reply := by
  rw [afterReading]
  split <;> next h => rw [h]; rfl

/-- A reply is the answer exactly where it is what was read. -/
theorem afterReading_result_eq_reply {o : Outcome Connection ProbeError Reply} {r : Reply} :
    (afterReading o).result = .ok (.reply r) ↔ o.result = .ok r := by
  rw [afterReading_result]
  cases o.result <;> simp [Except.map]

/-- An action that reads fails exactly where the reading does. -/
theorem afterReading_result_eq_error {o : Outcome Connection ProbeError Reply} {e : ProbeError} :
    (afterReading o).result = .error e ↔ o.result = .error e := by
  rw [afterReading_result]
  cases o.result <;> simp [Except.map]

/-- Do one thing. -/
def perform (action : Action) (s : Session) : Outcome Session ProbeError Answer :=
  match action with
  | .send frame =>
    let o := s.connection.send frame
    ⟨o.result.map fun _ => .done, { s with connection := o.state }, o.trace⟩
  | .read => afterReading s.connection.readReply
  | .exchange frame => afterReading (s.connection.exchange frame)
  | .decode => ⟨(LocalVersion.decode s.last.bytes).map .version, s, []⟩
  | .feed supply =>
    ⟨.ok .done,
      { s with connection := { s.connection with device := s.connection.device.feed supply } },
      []⟩

/-- Do one thing after the other, with the outcome of each. -/
def run : List Action → Session → List (Outcome Session ProbeError Answer)
  | [], _ => []
  | action :: rest, s => s.perform action :: run rest (s.perform action).state

/-- The session after a list of actions. -/
def final (actions : List Action) (s : Session) : Session :=
  actions.foldl (fun s action => (s.perform action).state) s

/-- What a list of actions does to the world, from first to last. -/
def trace (actions : List Action) (s : Session) : Trace :=
  (run actions s).flatMap Outcome.trace

/-! ## Actions one after the other -/

/-- The first action is done, then the others from where it leads. -/
theorem final_cons (action : Action) (rest : List Action) (s : Session) :
    final (action :: rest) s = final rest (s.perform action).state := rfl

/-- The outcomes of some actions come before those of the others. -/
theorem run_append (earlier later : List Action) (s : Session) :
    run (earlier ++ later) s = run earlier s ++ run later (final earlier s) := by
  induction earlier generalizing s with
  | nil => rfl
  | cons action rest ih => rw [List.cons_append, run, run, ih, List.cons_append, final_cons]

/-- The effects of the first action come first. -/
theorem trace_cons (action : Action) (rest : List Action) (s : Session) :
    trace (action :: rest) s = (s.perform action).trace ++ trace rest (s.perform action).state :=
  rfl

end Session

end VersionProbe
