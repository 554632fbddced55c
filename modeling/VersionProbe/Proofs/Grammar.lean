/-
# Which packets are events

A reply is an event packet if it passes a list of checks, each of which looks at the reply as a
whole.  A reply that does not pass is rejected for the first check that it fails.  The checks are
stated here apart from the reading, in the order in which they count, and so are the grammar of the
replies that pass them all and the event that such a reply stands for.

The reading takes a reply apart from the front and has no places to get wrong.  It is also shown to
be the same as a reading that takes bytes and slices by their places, none of which is ever outside
the reply.

* `parse_eq` : a reply is rejected for its first fault, or stands for what its parameters say.
* `inGrammar_iff` : the grammar is that of the replies without a fault.
* `parseByPlace_eq` : no byte and no slice is taken from outside the reply.
-/
import VersionProbe.Event

namespace VersionProbe

/-! ## Places -/

/-- The byte at a place; beyond the end it is zero. -/
def byteAt (d : List UInt8) (place : Nat) : UInt8 :=
  d.getD place 0

@[simp] theorem byteAt_cons_zero (b : UInt8) (d : List UInt8) : byteAt (b :: d) 0 = b := rfl

@[simp] theorem byteAt_cons_succ (b : UInt8) (d : List UInt8) (place : Nat) :
    byteAt (b :: d) (place + 1) = byteAt d place := rfl

/-- The bytes before a place are those of a beginning that reaches as far. -/
theorem byteAt_take {place n : Nat} (h : place < n) (d : List UInt8) :
    byteAt (d.take n) place = byteAt d place := by
  rw [byteAt, byteAt, List.getD_eq_getElem?_getD, List.getD_eq_getElem?_getD,
    List.getElem?_take_of_lt h]

/-- The bytes of what comes after a place are those further on. -/
theorem byteAt_drop (n place : Nat) (d : List UInt8) :
    byteAt (d.drop n) place = byteAt d (n + place) := by
  rw [byteAt, byteAt, List.getD_eq_getElem?_getD, List.getD_eq_getElem?_getD, List.getElem?_drop]

/-- The bytes from one place up to another, if there are so many. -/
def slice? (start stop : Nat) (d : List UInt8) : Option (List UInt8) :=
  if start ≤ stop ∧ stop ≤ d.length then some ((d.take stop).drop start) else none

/-- A slice between places in the right order, of which none is beyond the end, is there. -/
theorem slice?_of_le {start stop : Nat} {d : List UInt8} (horder : start ≤ stop)
    (hend : stop ≤ d.length) : slice? start stop d = some ((d.take stop).drop start) :=
  if_pos ⟨horder, hend⟩

/-- The word in the first two bytes, if there are two. -/
def LittleEndian.first? : List UInt8 → Option UInt16
  | low :: high :: _ => some (word low high)
  | _ => none

/-! ## Checks -/

/-- A check on a reply: whether the reply fails it, and what is wrong with it then. -/
structure Check where
  fails : Bool
  fault : ReplyFault

namespace Check

/-- What is wrong by the first check that fails. -/
def firstFault : List Check → Option ReplyFault
  | [] => none
  | check :: rest => if check.fails then some check.fault else firstFault rest

/-- What the checks come to: the first fault, or a value if there is none. -/
def verdict {α : Type} (checks : List Check) (value : α) : Except ProbeError α :=
  match firstFault checks with
  | some fault => .error (.invalidReply fault)
  | none => .ok value

section Verdict

variable {α : Type} {checks : List Check} {value : α}

/-- There is no fault exactly when every check is passed. -/
theorem firstFault_eq_none_iff :
    firstFault checks = none ↔ ∀ check ∈ checks, check.fails = false := by
  induction checks with
  | nil => simp [firstFault]
  | cons check rest ih =>
    rw [firstFault, List.forall_mem_cons]
    cases check.fails with
    | true => simp
    | false => simp [ih]

/-- The faults of some checks come before those of the checks after them. -/
theorem firstFault_append (checks later : List Check) :
    firstFault (checks ++ later) = (firstFault checks).or (firstFault later) := by
  induction checks with
  | nil => rfl
  | cons check rest ih =>
    rw [List.cons_append, firstFault, firstFault]
    cases check.fails with
    | true => rfl
    | false => exact ih

/-- A value is accepted exactly when no check fails. -/
theorem verdict_eq_ok_iff {accepted : α} :
    verdict checks value = .ok accepted ↔ firstFault checks = none ∧ accepted = value := by
  unfold verdict
  cases firstFault checks with
  | none => simp [eq_comm]
  | some fault => simp

/-- A value is rejected exactly for the first check that fails. -/
theorem verdict_eq_error_iff {e : ProbeError} :
    verdict checks value = .error e ↔
      ∃ fault, firstFault checks = some fault ∧ e = .invalidReply fault := by
  unfold verdict
  cases firstFault checks with
  | none => simp
  | some fault => simp [eq_comm]

/-- The first fault decides. -/
theorem verdict_of_fault {fault : ReplyFault} (h : firstFault checks = some fault) :
    verdict checks value = .error (.invalidReply fault) := by
  rw [verdict, h]

/-- Without a fault the value is accepted. -/
theorem verdict_of_none (h : firstFault checks = none) : verdict checks value = .ok value := by
  rw [verdict, h]

/-- A check that fails decides, and the others do not count then. -/
theorem verdict_cons (check : Check) :
    verdict (check :: checks) value
      = if check.fails then .error (.invalidReply check.fault) else verdict checks value := by
  cases h : check.fails with
  | true => exact verdict_of_fault (if_pos h)
  | false => rw [verdict, firstFault, h, verdict]; rfl

/-- Checks with the same first fault come to the same, if there is the same value without one. -/
theorem verdict_congr {checks' : List Check} {value' : α}
    (h : firstFault checks = firstFault checks')
    (hvalue : firstFault checks = none → value = value') :
    verdict checks value = verdict checks' value' := by
  cases hfirst : firstFault checks with
  | some fault => rw [verdict_of_fault hfirst, verdict_of_fault (h ▸ hfirst)]
  | none => rw [verdict_of_none hfirst, verdict_of_none (h ▸ hfirst), hvalue hfirst]

end Verdict

end Check

namespace Event

open Check

/-! ## The checks on a reply -/

/-- The checks on the parameters of an event: those that are taken apart have at least four. -/
def paramChecks (code : UInt8) (declared : Nat) : List Check :=
  [⟨code = commandCompleteCode ∧ declared < 4, .shortCommandComplete⟩,
    ⟨code = commandStatusCode ∧ declared < 4, .shortCommandStatus⟩]

/-- The checks on a reply, in the order in which they count: there is a byte, it announces an
event, the header is whole, there are as many bytes after it as it declares, and the parameters are
enough. -/
def checks (d : List UInt8) : List Check :=
  let declared := (byteAt d 2).toNat
  let received := d.length - 3
  ⟨d = [], .emptyReply⟩ ::
    ⟨byteAt d 0 ≠ eventIndicator, .notAnEvent (byteAt d 0)⟩ ::
    ⟨d.length < 3, .truncatedHeader⟩ ::
    ⟨received < declared, .truncatedParameters declared received⟩ ::
    paramChecks (byteAt d 1) declared

/-- The grammar of event packets: indicator, code, number of parameters, and at least so many bytes
more; the number is at least four for the events that are taken apart. -/
def InGrammar (d : List UInt8) : Prop :=
  ∃ code declared body, d = eventIndicator :: code :: declared :: body ∧
    declared.toNat ≤ body.length ∧
    (code = commandCompleteCode ∨ code = commandStatusCode → 4 ≤ declared.toNat)

/-- The parameters that a reply declares. -/
def declaredParams (d : List UInt8) : List UInt8 :=
  (d.drop 3).take (byteAt d 2).toNat

/-- The event that a code and enough parameters stand for. -/
def meaning (code : UInt8) (params : List UInt8) : Event :=
  if code = commandCompleteCode then
    .commandComplete (byteAt params 0) (LittleEndian.word (byteAt params 1) (byteAt params 2))
      (byteAt params 3) (params.drop 4)
  else if code = commandStatusCode then
    .commandStatus (byteAt params 0) (byteAt params 1)
      (LittleEndian.word (byteAt params 2) (byteAt params 3))
  else
    .other code params

/-- Parameters are checked, and then stand for what they mean. -/
theorem ofParams_eq (code : UInt8) (params : List UInt8) :
    ofParams code params = verdict (paramChecks code params.length) (meaning code params) := by
  have hdistinct : commandStatusCode ≠ commandCompleteCode := by decide
  by_cases hcomplete : code = commandCompleteCode
  · subst hcomplete
    rcases params with _ | ⟨packets, _ | ⟨low, _ | ⟨high, _ | ⟨status, rest⟩⟩⟩⟩
    case cons.cons.cons.cons =>
      have henough : ¬ rest.length + 1 + 1 + 1 + 1 < 4 := by omega
      simp [ofParams, paramChecks, verdict, firstFault, meaning, hdistinct.symm, henough]
    all_goals rfl
  · by_cases hstatus : code = commandStatusCode
    · subst hstatus
      rcases params with _ | ⟨status, _ | ⟨packets, _ | ⟨low, _ | ⟨high, rest⟩⟩⟩⟩
      case cons.cons.cons.cons =>
        have henough : ¬ rest.length + 1 + 1 + 1 + 1 < 4 := by omega
        simp [ofParams, paramChecks, verdict, firstFault, meaning, hdistinct, henough]
      all_goals rfl
    · simp [ofParams, paramChecks, verdict, firstFault, meaning, hcomplete, hstatus]

/-- Parameters have no fault exactly if they are enough for the event that they belong to. -/
theorem firstFault_paramChecks_eq_none_iff {code : UInt8} {declared : Nat} :
    firstFault (paramChecks code declared) = none ↔
      (code = commandCompleteCode ∨ code = commandStatusCode → 4 ≤ declared) := by
  simp only [firstFault_eq_none_iff, paramChecks, List.forall_mem_cons, decide_eq_false_iff_not,
    List.not_mem_nil, false_implies, implies_true, and_true]
  constructor
  · rintro ⟨hcomplete, hstatus⟩ (rfl | rfl)
    · exact Nat.not_lt.1 fun hshort => hcomplete ⟨rfl, hshort⟩
    · exact Nat.not_lt.1 fun hshort => hstatus ⟨rfl, hshort⟩
  · intro henough
    constructor
    · rintro ⟨hcode, hshort⟩
      exact absurd (henough (Or.inl hcode)) (Nat.not_le.2 hshort)
    · rintro ⟨hcode, hshort⟩
      exact absurd (henough (Or.inr hcode)) (Nat.not_le.2 hshort)

/-- An event with as many bytes as its header declares has the faults of its parameters only. -/
theorem firstFault_checks_of_whole {code declared : UInt8} {body : List UInt8}
    (hwhole : declared.toNat ≤ body.length) :
    firstFault (checks (eventIndicator :: code :: declared :: body))
      = firstFault (paramChecks code declared.toNat) := by
  have hheader : ¬ body.length + 1 + 1 + 1 < 3 := by omega
  have hreceived : ¬ body.length < declared.toNat := Nat.not_lt.2 hwhole
  simp [checks, firstFault, hheader, hreceived]

/-- An event with fewer bytes than its header declares is cut off. -/
theorem firstFault_checks_of_cut {code declared : UInt8} {body : List UInt8}
    (hcut : body.length < declared.toNat) :
    firstFault (checks (eventIndicator :: code :: declared :: body))
      = some (.truncatedParameters declared.toNat body.length) := by
  have hheader : ¬ body.length + 1 + 1 + 1 < 3 := by omega
  simp [checks, firstFault, hheader, hcut]

/-- A reply that announces something else has the fault of doing so, however short it is. -/
theorem firstFault_checks_of_other {indicator : UInt8} (h : indicator ≠ eventIndicator)
    (rest : List UInt8) :
    firstFault (checks (indicator :: rest)) = some (.notAnEvent indicator) := by
  simp [checks, firstFault, h]

/-- A reply is rejected for its first fault, unless it is an event with as many bytes as its header
declares. -/
theorem rejected_or_whole (d : List UInt8) :
    (∃ fault, firstFault (checks d) = some fault ∧ parse d = .error (.invalidReply fault)) ∨
      ∃ code declared body, d = eventIndicator :: code :: declared :: body ∧
        declared.toNat ≤ body.length := by
  rcases d with _ | ⟨indicator, rest⟩
  · exact Or.inl ⟨.emptyReply, rfl, rfl⟩
  · by_cases hindicator : indicator = eventIndicator
    · subst hindicator
      rcases rest with _ | ⟨code, _ | ⟨declared, body⟩⟩
      · exact Or.inl ⟨.truncatedHeader, rfl, rfl⟩
      · exact Or.inl ⟨.truncatedHeader, rfl, rfl⟩
      · rcases Nat.lt_or_ge body.length declared.toNat with hcut | hwhole
        · refine Or.inl ⟨_, firstFault_checks_of_cut hcut, ?_⟩
          rw [parse, if_pos rfl]
          exact if_pos hcut
        · exact Or.inr ⟨code, declared, body, rfl, hwhole⟩
    · refine Or.inl ⟨_, firstFault_checks_of_other hindicator rest, ?_⟩
      exact if_neg hindicator

/-- A reply is checked, and then stands for what its parameters mean. -/
theorem parse_eq (d : List UInt8) :
    parse d = verdict (checks d) (meaning (byteAt d 1) (declaredParams d)) := by
  rcases rejected_or_whole d with ⟨fault, hfault, hparse⟩ | ⟨code, declared, body, rfl, hwhole⟩
  · rw [hparse, verdict_of_fault hfault]
  · have hreceived : ¬ body.length < declared.toNat := Nat.not_lt.2 hwhole
    have hparams := ofParams_eq code (body.take declared.toNat)
    rw [List.length_take_of_le hwhole] at hparams
    rw [verdict_congr (firstFault_checks_of_whole hwhole) fun _ => rfl, parse, if_pos rfl]
    simp only [if_neg hreceived]
    exact hparams

/-- The replies of the grammar are those that pass all checks. -/
theorem inGrammar_iff (d : List UInt8) : InGrammar d ↔ firstFault (checks d) = none := by
  constructor
  · rintro ⟨code, declared, body, rfl, hwhole, henough⟩
    rw [firstFault_checks_of_whole hwhole]
    exact firstFault_paramChecks_eq_none_iff.2 henough
  · intro hnone
    rcases rejected_or_whole d with ⟨fault, hfault, -⟩ | ⟨code, declared, body, rfl, hwhole⟩
    · rw [hnone] at hfault
      cases hfault
    · rw [firstFault_checks_of_whole hwhole] at hnone
      exact ⟨code, declared, body, rfl, hwhole, firstFault_paramChecks_eq_none_iff.1 hnone⟩

/-- The grammar by places. -/
theorem inGrammar_iff_places {d : List UInt8} :
    InGrammar d ↔ byteAt d 0 = eventIndicator ∧ 3 + (byteAt d 2).toNat ≤ d.length ∧
      (byteAt d 1 = commandCompleteCode ∨ byteAt d 1 = commandStatusCode →
        4 ≤ (byteAt d 2).toNat) := by
  constructor
  · rintro ⟨code, declared, body, rfl, hwhole, henough⟩
    refine ⟨rfl, ?_, henough⟩
    simp only [byteAt_cons_succ, byteAt_cons_zero, List.length_cons]
    omega
  · rintro ⟨hindicator, hwhole, henough⟩
    rcases d with _ | ⟨indicator, _ | ⟨code, _ | ⟨declared, body⟩⟩⟩
    case cons.cons.cons =>
      obtain rfl : indicator = eventIndicator := hindicator
      refine ⟨code, declared, body, rfl, ?_, henough⟩
      simp only [byteAt_cons_succ, byteAt_cons_zero, List.length_cons] at hwhole
      omega
    all_goals
      simp only [List.length_cons, List.length_nil] at hwhole
      omega

/-- A reply in the grammar has as many parameters as it declares. -/
theorem length_declaredParams {d : List UInt8} (h : InGrammar d) :
    (declaredParams d).length = (byteAt d 2).toNat := by
  obtain ⟨-, hwhole, -⟩ := inGrammar_iff_places.1 h
  rw [declaredParams, List.length_take, List.length_drop]
  omega

/-- The parameters begin at the fourth byte of a reply. -/
theorem byteAt_declaredParams {d : List UInt8} {place : Nat} (h : place < (byteAt d 2).toNat) :
    byteAt (declaredParams d) place = byteAt d (3 + place) := by
  rw [declaredParams, byteAt_take h, byteAt_drop]

/-! ## Reading by places -/

/-- The event of a code and its parameters, read by their places; there is no result at all if a
byte or a slice is taken from outside the parameters. -/
def paramsByPlace (code : UInt8) (params : List UInt8) : Option (Except ProbeError Event) :=
  if code = commandCompleteCode then
    if params.length < 4 then
      some (.error (.invalidReply .shortCommandComplete))
    else do
      let packets ← params[0]?
      let opcode ← (slice? 1 3 params).bind LittleEndian.first?
      let status ← params[3]?
      let returnParams ← slice? 4 params.length params
      some (.ok (.commandComplete packets opcode status returnParams))
  else if code = commandStatusCode then
    if params.length < 4 then
      some (.error (.invalidReply .shortCommandStatus))
    else do
      let status ← params[0]?
      let packets ← params[1]?
      let opcode ← (slice? 2 4 params).bind LittleEndian.first?
      some (.ok (.commandStatus status packets opcode))
  else
    some (.ok (.other code params))

/-- The event of a reply, read by places; there is no result at all if a byte or a slice is taken
from outside the reply. -/
def parseByPlace : List UInt8 → Option (Except ProbeError Event)
  | [] => some (.error (.invalidReply .emptyReply))
  | indicator :: rest =>
    if indicator ≠ eventIndicator then
      some (.error (.invalidReply (.notAnEvent indicator)))
    else if rest.length < 2 then
      some (.error (.invalidReply .truncatedHeader))
    else do
      let code ← rest[0]?
      let declared ← rest[1]?
      let body ← slice? 2 rest.length rest
      if body.length < declared.toNat then
        some (.error (.invalidReply (.truncatedParameters declared.toNat body.length)))
      else do
        let params ← slice? 0 declared.toNat body
        paramsByPlace code params

/-- No byte and no slice is taken from outside the parameters. -/
theorem paramsByPlace_eq (code : UInt8) (params : List UInt8) :
    paramsByPlace code params = some (ofParams code params) := by
  have hdistinct : commandStatusCode ≠ commandCompleteCode := by decide
  by_cases hcomplete : code = commandCompleteCode
  · subst hcomplete
    rcases params with _ | ⟨packets, _ | ⟨low, _ | ⟨high, _ | ⟨status, rest⟩⟩⟩⟩
    case cons.cons.cons.cons => simp [paramsByPlace, ofParams, slice?, LittleEndian.first?]
    all_goals rfl
  · by_cases hstatus : code = commandStatusCode
    · subst hstatus
      rcases params with _ | ⟨status, _ | ⟨packets, _ | ⟨low, _ | ⟨high, rest⟩⟩⟩⟩
      case cons.cons.cons.cons =>
        simp [paramsByPlace, ofParams, slice?, LittleEndian.first?, hdistinct]
      all_goals rfl
    · simp [paramsByPlace, ofParams, hcomplete, hstatus]

/-- No byte and no slice is taken from outside a reply. -/
theorem parseByPlace_eq (d : List UInt8) : parseByPlace d = some (parse d) := by
  rcases d with _ | ⟨indicator, rest⟩
  · rfl
  · by_cases hindicator : indicator = eventIndicator
    · subst hindicator
      rcases rest with _ | ⟨code, _ | ⟨declared, body⟩⟩
      · rfl
      · rfl
      · have hheader : ¬ body.length + 1 + 1 < 2 := by omega
        have hbody : slice? 2 (body.length + 1 + 1) (code :: declared :: body) = some body := by
          have hwhole : body.length + 1 + 1 ≤ (code :: declared :: body).length := Nat.le_refl _
          rw [slice?_of_le (by omega) hwhole]
          simp
        rcases Nat.lt_or_ge body.length declared.toNat with hcut | hwhole
        · simp [parseByPlace, parse, hheader, hbody, hcut]
        · have hparams : slice? 0 declared.toNat body = some (body.take declared.toNat) :=
            slice?_of_le (Nat.zero_le _) hwhole
          have hreceived : ¬ body.length < declared.toNat := Nat.not_lt.2 hwhole
          simp [parseByPlace, parse, hheader, hbody, hparams, hreceived, paramsByPlace_eq]
    · simp [parseByPlace, parse, hindicator]

/-- **Reading accepts the grammar and says what is wrong with everything else.**  A reply is read as
an event exactly if it is in the grammar, as the event that its code and parameters mean.  Otherwise
it is rejected for the first check that it fails.  A reply that announces something else than an
event is rejected with the byte it begins with, however short it is, and one that is cut off with
the numbers of bytes declared and received.  No byte and no slice is ever taken from outside the
reply. -/
theorem parse_classifies (d : List UInt8) :
    (∀ e, parse d = .ok e ↔ InGrammar d ∧ e = meaning (byteAt d 1) (declaredParams d)) ∧
      (∀ e, parse d = .error e ↔
        ∃ fault, firstFault (checks d) = some fault ∧ e = .invalidReply fault) ∧
      (∀ indicator rest, d = indicator :: rest → indicator ≠ eventIndicator →
        ∃ e, parse d = .error e ∧
          e.message = "Invalid response from controller: expected event packet 0x04, got 0x"
            ++ Hex.byte indicator) ∧
      (∀ code declared body, d = eventIndicator :: code :: declared :: body →
        body.length < declared.toNat →
        ∃ e, parse d = .error e ∧
          e.message = "Invalid response from controller: event declares "
            ++ toString declared.toNat ++ " parameter bytes, only " ++ toString body.length
            ++ " received") ∧
      parseByPlace d = some (parse d) := by
  refine ⟨?_, ?_, ?_, ?_, parseByPlace_eq d⟩
  · intro e
    rw [parse_eq, verdict_eq_ok_iff, inGrammar_iff]
  · intro e
    rw [parse_eq, verdict_eq_error_iff]
  · rintro indicator rest rfl hindicator
    refine ⟨.invalidReply (.notAnEvent indicator), ?_, rfl⟩
    rw [parse_eq, verdict_of_fault (firstFault_checks_of_other hindicator rest)]
  · rintro code declared body rfl hcut
    refine ⟨.invalidReply (.truncatedParameters declared.toNat body.length), ?_, rfl⟩
    rw [parse_eq, verdict_of_fault (firstFault_checks_of_cut hcut)]

/-- A Command Complete that declares three parameters is rejected although five bytes follow, and a
single byte other than the indicator for what it announces. -/
theorem parse_declaring_three :
    parse [0x04, 0x0E, 0x03, 0x01, 0x01, 0x10, 0x00, 0x06]
        = .error (.invalidReply .shortCommandComplete) ∧
      ∃ e, parse [0xAA] = .error e ∧
        e.message = "Invalid response from controller: expected event packet 0x04, got 0xaa" := by
  constructor
  · exact ((parse_classifies _).2.1 _).2 ⟨.shortCommandComplete, by decide, rfl⟩
  · obtain ⟨e, herror, hmessage⟩ := (parse_classifies [0xAA]).2.2.1 0xAA [] rfl (by decide)
    refine ⟨e, herror, ?_⟩
    rw [hmessage]
    decide +kernel

end Event

end VersionProbe
