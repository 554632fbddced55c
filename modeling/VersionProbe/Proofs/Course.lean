/-
# The course of a query

The arguments that ask for a query name a device, with any of the two options before it or after
it.  The run that they ask for opens the port, exchanges the query for a reply, and shows the reply.
It goes one of two ways: it fails before anything is shown, or it gets a reply.  The options have a
say in neither; they decide only what is shown after the bytes of the reply.

* `ofArguments_of_asks` : what arguments ask for, in whatever order.
* `exchange_transfers` : an exchange calls the open device and writes to the log, and nothing else.
* `probe_cases` : both ways in which a query can go.
-/
import VersionProbe.Run

namespace VersionProbe

/-! ## Asking for a query -/

/-- `AsksToProbe device decode json arguments` says that the arguments name a device, and before it
or after it, each at most once, the options to decode the reply and to show it as JSON, as far as
they are wanted. -/
def AsksToProbe (device : String) (decode json : Bool) (arguments : List String) : Prop :=
  ∃ before after : List Flag,
    arguments = before.map Flag.spelling ++ device :: after.map Flag.spelling ∧
      (before ++ after).Nodup ∧ .list ∉ before ++ after ∧
      decode = (before ++ after).contains .decode ∧ json = (before ++ after).contains .json

/-- A device without any options asks for a query that shows the bytes of the reply only. -/
theorem asksToProbe_alone (device : String) : AsksToProbe device false false [device] :=
  ⟨[], [], rfl, List.nodup_nil, List.not_mem_nil, rfl, rfl⟩

/-- An option is read as what it spells. -/
theorem Word.ofArgument_spelling (flag : Flag) : ofArgument flag.spelling = .flag flag := by
  cases flag with
  | list => decide
  | decode => decide
  | json => decide

/-- An argument that does not begin with a hyphen is read as a device. -/
theorem Word.ofArgument_device {name : String} (h : name.toList.head? ≠ some '-') :
    ofArgument name = .device name := by
  unfold ofArgument
  split
  case h_6 => rfl
  all_goals
    next hchars =>
      rw [hchars] at h
      exact absurd rfl h

namespace Request

/-- Options that were not read before are added to the selection. -/
theorem readArguments_flags {flags : List Flag} {s : Selection} (hnew : (flags ++ s.flags).Nodup)
    (rest : List String) :
    readArguments s (flags.map Flag.spelling ++ rest)
      = readArguments { s with flags := flags.reverse ++ s.flags } rest := by
  induction flags generalizing s with
  | nil => rfl
  | cons flag flags ih =>
    have hsplit := List.nodup_cons.1 hnew
    have hflag : s.flags.contains flag = false := by
      rw [List.contains_eq_mem, decide_eq_false_iff_not]
      exact fun hmem => hsplit.1 (List.mem_append_right _ hmem)
    have hlater : (flags ++ flag :: s.flags).Nodup := List.perm_middle.nodup_iff.2 hnew
    rw [List.map_cons, List.cons_append, readArguments, Word.ofArgument_spelling]
    simp only [Selection.addFlag, hflag]
    rw [List.reverse_cons, List.append_assoc]
    exact ih hlater

/-- The first device is added to the selection. -/
theorem readArguments_device {device : String} (h : device.toList.head? ≠ some '-') {s : Selection}
    (hfirst : s.device = none) (rest : List String) :
    readArguments s (device :: rest) = readArguments { s with device := some device } rest := by
  rw [readArguments, Word.ofArgument_device h]
  simp only [Selection.addDevice, hfirst]

/-- Arguments that ask for a query are read as such, in whatever order they are given. -/
theorem ofArguments_of_asks {device : String} (h : device.toList.head? ≠ some '-')
    {decode json : Bool} {arguments : List String}
    (hasks : AsksToProbe device decode json arguments) :
    ofArguments arguments = .ok (.probe device decode json) := by
  obtain ⟨before, after, rfl, hnodup, hlist, rfl, rfl⟩ := hasks
  have hbefore : (before ++ ([] : List Flag)).Nodup := by
    rw [List.append_nil]
    exact (List.nodup_append.1 hnodup).1
  have hafter : (after ++ (before.reverse ++ [])).Nodup := by
    rw [List.append_nil]
    exact (List.perm_append_comm.trans ((List.reverse_perm before).append_right after)).nodup_iff.2
      hnodup
  -- What was read is the same as what was given, up to the order.
  have hsame : ∀ flag : Flag, (after.reverse ++ (before.reverse ++ [])).contains flag
      = (before ++ after).contains flag := by
    intro flag
    rw [Bool.eq_iff_iff, List.contains_iff_mem, List.contains_iff_mem]
    simp only [List.append_nil, List.mem_append, List.mem_reverse, Or.comm]
  have hnolist : (before ++ after).contains .list = false := by
    rw [List.contains_eq_mem, decide_eq_false_iff_not]
    exact hlist
  have hend := readArguments_flags (s := ⟨before.reverse ++ [], some device⟩) hafter []
  rw [List.append_nil (after.map Flag.spelling)] at hend
  rw [ofArguments, readArguments_flags hbefore, readArguments_device h rfl]
  refine Eq.trans hend ?_
  simp only [readArguments, Selection.request, hsame, hnolist]

end Request

/-! ## Effects -/

/-- Whether an effect is a call on an open device or an entry in the log. -/
def Effect.isTransfer : Effect → Bool
  | write _ => true
  | effect => effect.isReading

/-- What is done to read a reply is done with an open device. -/
theorem Effect.isTransfer_of_isReading {effect : Effect} (h : effect.isReading = true) :
    effect.isTransfer = true := by
  cases effect with
  | write call => rfl
  | _ => exact h

namespace Trace

/-- The text that two traces put on the standard output, one after the other. -/
theorem stdout_append (s t : Trace) : stdout (s ++ t) = stdout s ++ stdout t := by
  rw [stdout, List.filterMap_append, String.join_append]
  rfl

section Transfer

variable {t : Trace} (h : ∀ effect ∈ t, effect.isTransfer = true)

include h

/-- Transfers open no port. -/
theorem openings_of_transfers : openings t = [] := by
  apply List.filterMap_eq_nil_iff.2
  intro effect hmem
  have htransfer := h effect hmem
  cases effect with
  | opening settings => cases htransfer
  | _ => rfl

/-- Transfers print nothing. -/
theorem stdout_of_transfers : stdout t = "" := by
  unfold stdout
  rw [List.filterMap_eq_nil_iff.2, String.join_nil]
  intro effect hmem
  have htransfer := h effect hmem
  cases effect with
  | print text => cases htransfer
  | _ => rfl

end Transfer

end Trace

namespace Connection

variable (frame : List UInt8) (c : Connection)

/-- Sending makes calls on the device and writes to the log. -/
theorem send_transfers : ∀ effect ∈ (c.send frame).trace, effect.isTransfer = true := by
  intro effect hmem
  rcases c.send_effects frame effect hmem with ⟨call, rfl⟩ | ⟨entry, rfl⟩
  · rfl
  · rfl

/-- Reading a reply makes calls on the device and writes to the log. -/
theorem readReply_transfers : ∀ effect ∈ c.readReply.trace, effect.isTransfer = true := by
  rw [trace_readReply]
  intro effect hmem
  exact Effect.isTransfer_of_isReading ((Device.collect_collecting _ _ _).effects effect hmem)

/-- An exchange makes calls on the device and writes to the log. -/
theorem exchange_transfers : ∀ effect ∈ (c.exchange frame).trace, effect.isTransfer = true := by
  have hsending := c.send_transfers frame
  cases hsend : (c.send frame).result with
  | ok u =>
    rw [exchange_of_send_ok hsend, Outcome.after_trace]
    exact List.forall_mem_append.2 ⟨hsending, readReply_transfers _⟩
  | error e =>
    rw [exchange_of_send_error hsend]
    exact hsending

/-- Acquiring a port prints nothing. -/
theorem stdout_acquire (config : Config) (answer : Except SerialError Device) :
    Trace.stdout (acquire config answer).2 = "" := by
  by_cases hport : config.port = ""
  · rw [acquire_of_unnamed hport]
    rfl
  · cases answer with
    | error e =>
      rw [acquire_of_refused hport]
      rfl
    | ok device =>
      rw [acquire_of_opened hport]
      rfl

end Connection

/-! ## Queries -/

namespace Run

/-- `Gets device opening r` says that the port of that name is opened, and that the query is
exchanged for the reply. -/
def Gets (device : String) (opening : Except SerialError Device) (r : Reply) : Prop :=
  ∃ c, (Connection.acquire (.forPort device) opening).1 = .ok c ∧
    (c.exchange requestFrame).result = .ok r

/-- What a query does after it has printed the bytes of the reply. -/
def shown (decode json : Bool) (r : Reply) : Trace :=
  if decode then showDecoded json r else []

section Probe

variable {device : String} {opening : Except SerialError Device}

/-- A query over a port that is opened gets the reply that it is exchanged for. -/
theorem Gets.of_opened {port : Device} {r : Reply} (hnamed : device ≠ "")
    (h : ((Connection.ofDevice (.forPort device) port).exchange requestFrame).result = .ok r) :
    Gets device (.ok port) r :=
  ⟨_, congrArg Prod.fst (Connection.acquire_of_opened hnamed port), h⟩

/-- There is one reply at most. -/
theorem Gets.unique {r r' : Reply} (h : Gets device opening r) (h' : Gets device opening r') :
    r = r' := by
  obtain ⟨c, hacquire, hresult⟩ := h
  obtain ⟨c', hacquire', hresult'⟩ := h'
  rw [hacquire] at hacquire'
  obtain rfl := Except.ok.inj hacquire'
  rw [hresult] at hresult'
  exact Except.ok.inj hresult'

/-- A query over a port that is not acquired fails. -/
theorem probe_of_refused {e : ProbeError} {t : Trace}
    (h : Connection.acquire (.forPort device) opening = (.error e, t)) (decode json : Bool) :
    probe device decode json opening
      = ⟨1, t ++ [.complain (failureReport ("failed to open " ++ device) e)]⟩ := by
  simp only [probe, h]

/-- A query without a reply fails. -/
theorem probe_of_failed {c : Connection} {t : Trace} {e : ProbeError}
    (h : Connection.acquire (.forPort device) opening = (.ok c, t))
    (hresult : (c.exchange requestFrame).result = .error e) (decode json : Bool) :
    probe device decode json opening
      = ⟨1, t ++ (c.exchange requestFrame).trace
            ++ [.log (c.exchange requestFrame).state.closing]
          ++ [.complain (failureReport ("exchange with " ++ device ++ " failed") e)]⟩ := by
  simp only [probe, h, hresult]

/-- A query with a reply prints its bytes, and then what the options ask for. -/
theorem probe_of_reply {c : Connection} {t : Trace} {r : Reply}
    (h : Connection.acquire (.forPort device) opening = (.ok c, t))
    (hresult : (c.exchange requestFrame).result = .ok r) (decode json : Bool) :
    probe device decode json opening
      = ⟨0, t ++ (c.exchange requestFrame).trace
            ++ [.log (c.exchange requestFrame).state.closing]
          ++ [.log (.replied r.length), .print (r.line ++ "\n")] ++ shown decode json r⟩ := by
  simp only [probe, h, hresult, shown]

end Probe

/-- A query goes one of two ways, whatever the options are: it fails without having printed
anything, or it gets a reply and prints its bytes, and only what comes after depends on the
options. -/
theorem probe_cases (device : String) (opening : Except SerialError Device) :
    (∃ t, (∀ r, ¬ Gets device opening r) ∧ Trace.stdout t = "" ∧
        ∀ decode json, probe device decode json opening = ⟨1, t⟩) ∨
      ∃ r t, Gets device opening r ∧ Trace.stdout t = r.line ++ "\n" ∧
        ∀ decode json, probe device decode json opening = ⟨0, t ++ shown decode json r⟩ := by
  have hquiet := Connection.stdout_acquire (.forPort device) opening
  cases hacquire : Connection.acquire (.forPort device) opening with
  | mk result t =>
    rw [hacquire] at hquiet
    cases result with
    | error e =>
      refine Or.inl ⟨_, ?_, ?_, probe_of_refused hacquire⟩
      · rintro r ⟨c, hopened, -⟩
        rw [hacquire] at hopened
        cases hopened
      · rw [Trace.stdout_append, hquiet]
        rfl
    | ok c =>
      have hsilent := Trace.stdout_of_transfers (c.exchange_transfers requestFrame)
      cases hresult : (c.exchange requestFrame).result with
      | error e =>
        refine Or.inl ⟨_, ?_, ?_, probe_of_failed hacquire hresult⟩
        · rintro r ⟨c', hopened, hreply⟩
          rw [hacquire] at hopened
          obtain rfl := Except.ok.inj hopened
          rw [hresult] at hreply
          cases hreply
        · rw [Trace.stdout_append, Trace.stdout_append, Trace.stdout_append, hquiet, hsilent]
          rfl
      | ok r =>
        refine Or.inr ⟨r, _, ⟨c, ?_, hresult⟩, ?_, probe_of_reply hacquire hresult⟩
        · rw [hacquire]
        · rw [Trace.stdout_append, Trace.stdout_append, Trace.stdout_append, hquiet, hsilent]
          show "" ++ "" ++ "" ++ ("" ++ (r.line ++ "\n")) = r.line ++ "\n"
          simp only [String.empty_append]

end Run

end VersionProbe
