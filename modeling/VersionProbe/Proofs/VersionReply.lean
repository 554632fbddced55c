/-
# Which replies carry version information

A reply answers the version query if it is a Command Complete event for the query, reports success,
and has the eight bytes of the version information.  Each field then stands at a place of its own,
and nothing else in the reply matters.  A reply that does not answer the query is rejected for the
first of its faults: those that it has as an event, then those that it has as an answer.

* `decode_eq` : a reply is rejected for its first fault, or decoded place by place.
* `decode_eq_ok_iff` : a reply is decoded exactly if it carries version information.
* `Carries.of_agree` : only the length and the bytes at fifteen places matter, and one of these does
  not.
-/
import VersionProbe.LocalVersion
import VersionProbe.Proofs.Grammar

namespace VersionProbe.LocalVersion

open Check

/-! ## Checks and fields -/

/-- The checks on an event as an answer to the version query, in the order in which they count: the
query is not put off, the event answers a command, the command is the query, it was carried out, and
there are as many bytes as the version information needs. -/
def answerChecks (r : List UInt8) : List Check :=
  let code := byteAt r 1
  let opcode := LittleEndian.word (byteAt r 4) (byteAt r 5)
  let declared := (byteAt r 2).toNat
  [⟨code = commandStatusCode,
      .commandStatus (byteAt r 3) (LittleEndian.word (byteAt r 5) (byteAt r 6))⟩,
    ⟨code ≠ commandCompleteCode, .unexpectedEvent code⟩,
    ⟨opcode ≠ Command.readLocalVersion.opcode,
      .otherCommand opcode Command.readLocalVersion.opcode⟩,
    ⟨byteAt r 6 ≠ 0, .failedStatus (byteAt r 6)⟩,
    ⟨declared - 4 < byteCount, .shortVersion byteCount (declared - 4)⟩]

/-- The checks on a reply to the version query, in the order in which they count. -/
def checks (r : List UInt8) : List Check :=
  Event.checks r ++ answerChecks r

/-- The version information that begins at a place. -/
def fieldsFrom (place : Nat) (r : List UInt8) : LocalVersion where
  hciVersion := byteAt r place
  hciRevision := LittleEndian.word (byteAt r (place + 1)) (byteAt r (place + 2))
  lmpVersion := byteAt r (place + 3)
  manufacturer := LittleEndian.word (byteAt r (place + 4)) (byteAt r (place + 5))
  lmpSubversion := LittleEndian.word (byteAt r (place + 6)) (byteAt r (place + 7))

/-- `Carries r v` says that a reply is a successful answer to the version query with at least twelve
parameters, and that the version information has these fields at these places of it. -/
structure Carries (r : List UInt8) (v : LocalVersion) : Prop where
  indicator : byteAt r 0 = 0x04
  code : byteAt r 1 = 0x0E
  enough : 12 ≤ (byteAt r 2).toNat
  whole : 3 + (byteAt r 2).toNat ≤ r.length
  opcode_low : byteAt r 4 = byteAt requestFrame 1
  opcode_high : byteAt r 5 = byteAt requestFrame 2
  status : byteAt r 6 = 0
  hciVersion : v.hciVersion = byteAt r 7
  hciRevision : v.hciRevision.toNat = (byteAt r 8).toNat + 256 * (byteAt r 9).toNat
  lmpVersion : v.lmpVersion = byteAt r 10
  manufacturer : v.manufacturer.toNat = (byteAt r 11).toNat + 256 * (byteAt r 12).toNat
  lmpSubversion : v.lmpSubversion.toNat = (byteAt r 13).toNat + 256 * (byteAt r 14).toNat
  vendor : v.vendor = Vendor.ofId (LittleEndian.word (byteAt r 11) (byteAt r 12))

/-- A reply with version information: the number of parameters that it declares, the number of
commands that the controller takes, and what follows the version information. -/
def reply (v : LocalVersion) (declared packets : UInt8) (tail : List UInt8) : List UInt8 :=
  [0x04, 0x0E, declared, packets, byteAt requestFrame 1, byteAt requestFrame 2, 0]
    ++ v.returnParams ++ tail

/-! ## Checks and decoding -/

/-- Return parameters are decoded place by place if there are enough. -/
theorem ofReturnParams_eq (params : List UInt8) :
    ofReturnParams params
      = verdict [⟨params.length < byteCount, .shortVersion byteCount params.length⟩]
          (fieldsFrom 0 params) := by
  rcases params with _ | ⟨b₀, _ | ⟨b₁, _ | ⟨b₂, _ | ⟨b₃, _ | ⟨b₄, _ | ⟨b₅, _ | ⟨b₆, _ | ⟨b₇, rest⟩⟩⟩⟩⟩⟩⟩⟩
  case cons.cons.cons.cons.cons.cons.cons.cons =>
    have henough : ¬ (b₀ :: b₁ :: b₂ :: b₃ :: b₄ :: b₅ :: b₆ :: b₇ :: rest).length < byteCount := by
      simp only [List.length_cons, byteCount]
      omega
    rw [verdict_of_none (by simp only [firstFault, henough]; rfl)]
    rfl
  all_goals rfl

/-- The fields are the same where the eight bytes that hold them are. -/
theorem fieldsFrom_congr {place place' : Nat} {r r' : List UInt8}
    (h : ∀ i, i < 8 → byteAt r (place + i) = byteAt r' (place' + i)) :
    fieldsFrom place r = fieldsFrom place' r' := by
  have hfirst : byteAt r place = byteAt r' place' := h 0 (by decide)
  rw [fieldsFrom, fieldsFrom, hfirst, h 1 (by decide), h 2 (by decide), h 3 (by decide),
    h 4 (by decide), h 5 (by decide), h 6 (by decide), h 7 (by decide)]

/-- The return parameters of a reply begin at its eighth byte; they are decoded from there. -/
theorem ofReturnParams_declaredParams {r : List UInt8} (h : Event.InGrammar r) :
    ofReturnParams ((Event.declaredParams r).drop 4)
      = verdict [⟨(byteAt r 2).toNat - 4 < byteCount,
          .shortVersion byteCount ((byteAt r 2).toNat - 4)⟩] (fieldsFrom 7 r) := by
  have hlength : ((Event.declaredParams r).drop 4).length = (byteAt r 2).toNat - 4 := by
    rw [List.length_drop, Event.length_declaredParams h]
  rw [ofReturnParams_eq, hlength]
  refine verdict_congr rfl fun hnone => fieldsFrom_congr fun i hi => ?_
  -- Without a fault there are at least twelve parameters, so all these places are among them.
  have henough : 12 ≤ (byteAt r 2).toNat := by
    have hpasses : ¬ (byteAt r 2).toNat - 4 < 8 :=
      of_decide_eq_false (firstFault_eq_none_iff.1 hnone _ List.mem_cons_self)
    omega
  have hplace : 4 + (0 + i) < (byteAt r 2).toNat := by omega
  have hshift : 3 + (4 + (0 + i)) = 7 + i := by omega
  rw [byteAt_drop, Event.byteAt_declaredParams hplace, hshift]

/-- An event that is read from a reply is checked as an answer, and then decoded place by place. -/
theorem ofEvent_meaning {r : List UInt8} (h : Event.InGrammar r) :
    ofEvent (Event.meaning (byteAt r 1) (Event.declaredParams r))
      = verdict (answerChecks r) (fieldsFrom 7 r) := by
  obtain ⟨-, -, henough⟩ := Event.inGrammar_iff_places.1 h
  have hplace : 4 ≤ (byteAt r 2).toNat → ∀ place, place < 4 →
      byteAt (Event.declaredParams r) place = byteAt r (3 + place) := by
    intro hfour place hlt
    exact Event.byteAt_declaredParams (Nat.lt_of_lt_of_le hlt hfour)
  have hdistinct : commandCompleteCode ≠ commandStatusCode := by decide
  by_cases hcomplete : byteAt r 1 = commandCompleteCode
  · have hfour := hplace (henough (Or.inl hcomplete))
    simp only [Event.meaning, answerChecks, verdict_cons, hcomplete, if_pos, ofEvent,
      hfour 1 (by decide), hfour 2 (by decide), hfour 3 (by decide),
      ofReturnParams_declaredParams h, decide_eq_true_eq, hdistinct, if_false, ne_eq,
      not_true_eq_false]
  · by_cases hstatus : byteAt r 1 = commandStatusCode
    · have hfour := hplace (henough (Or.inr hstatus))
      simp only [Event.meaning, answerChecks, verdict_cons, hstatus, if_pos, ofEvent,
        hfour 0 (by decide), hfour 2 (by decide), hfour 3 (by decide), decide_eq_true_eq,
        hdistinct.symm, if_false]
    · simp only [Event.meaning, answerChecks, verdict_cons, hcomplete, hstatus, if_false, ofEvent,
        decide_eq_true_eq, ne_eq, not_false_eq_true, if_true]

/-- A reply is checked as an event, then as an answer, and then decoded place by place. -/
theorem decode_eq (r : List UInt8) : decode r = verdict (checks r) (fieldsFrom 7 r) := by
  rw [decode, Event.parse_eq]
  cases hfirst : firstFault (Event.checks r) with
  | some fault =>
    have hfault : firstFault (checks r) = some fault := by
      rw [checks, firstFault_append, hfirst, Option.some_or]
    rw [verdict_of_fault hfirst, verdict_of_fault hfault]
    rfl
  | none =>
    have hrest : firstFault (answerChecks r) = firstFault (checks r) := by
      rw [checks, firstFault_append, hfirst, Option.none_or]
    rw [verdict_of_none hfirst, ← verdict_congr hrest fun _ => rfl]
    exact ofEvent_meaning ((Event.inGrammar_iff r).2 hfirst)

/-! ## Replies with version information -/

/-- The opcode of the query is the one that the request frame holds. -/
theorem opcode_eq_iff {low high : UInt8} :
    LittleEndian.word low high = Command.readLocalVersion.opcode ↔
      low = byteAt requestFrame 1 ∧ high = byteAt requestFrame 2 := by
  constructor
  · intro h
    constructor
    · rw [← LittleEndian.low_word low high, h]
      rfl
    · rw [← LittleEndian.high_word low high, h]
      rfl
  · rintro ⟨rfl, rfl⟩
    decide

/-- An event is an answer without a fault exactly if it is a Command Complete for the query that
reports success and has at least twelve parameters. -/
theorem firstFault_answerChecks_eq_none_iff {r : List UInt8} :
    firstFault (answerChecks r) = none ↔
      byteAt r 1 = commandCompleteCode ∧
        LittleEndian.word (byteAt r 4) (byteAt r 5) = Command.readLocalVersion.opcode ∧
        byteAt r 6 = 0 ∧ 12 ≤ (byteAt r 2).toNat := by
  have hcount : byteCount = 8 := rfl
  simp only [firstFault_eq_none_iff, answerChecks, List.forall_mem_cons, decide_eq_false_iff_not,
    ne_eq, Decidable.not_not]
  constructor
  · rintro ⟨-, hcode, hopcode, hstatus, henough, -⟩
    exact ⟨hcode, hopcode, hstatus, by omega⟩
  · rintro ⟨hcode, hopcode, hstatus, henough⟩
    refine ⟨?_, hcode, hopcode, hstatus, by omega, List.forall_mem_nil _⟩
    rw [hcode]
    decide

/-- A word is given by its two bytes. -/
theorem toNat_eq_iff {w : UInt16} {low high : UInt8} :
    w.toNat = low.toNat + 256 * high.toNat ↔ w = LittleEndian.word low high := by
  rw [← LittleEndian.toNat_word, UInt16.toNat_inj]

/-- A reply carries version information exactly if it has no fault; the fields are then those from
the eighth byte on. -/
theorem carries_iff {r : List UInt8} {v : LocalVersion} :
    Carries r v ↔ firstFault (checks r) = none ∧ v = fieldsFrom 7 r := by
  rw [checks, firstFault_append, Option.or_eq_none_iff, ← Event.inGrammar_iff,
    Event.inGrammar_iff_places, firstFault_answerChecks_eq_none_iff, opcode_eq_iff]
  constructor
  · intro h
    refine ⟨⟨⟨h.indicator, h.whole, ?_⟩, h.code, ⟨h.opcode_low, h.opcode_high⟩, h.status,
      h.enough⟩, ?_⟩
    · intro _
      exact Nat.le_trans (by decide) h.enough
    · obtain ⟨hciVersion, hciRevision, lmpVersion, manufacturer, lmpSubversion⟩ := v
      obtain rfl := h.hciVersion
      obtain rfl := toNat_eq_iff.1 h.hciRevision
      obtain rfl := h.lmpVersion
      obtain rfl := toNat_eq_iff.1 h.manufacturer
      obtain rfl := toNat_eq_iff.1 h.lmpSubversion
      rfl
  · rintro ⟨⟨⟨hindicator, hwhole, -⟩, hcode, ⟨hlow, hhigh⟩, hstatus, henough⟩, rfl⟩
    exact ⟨hindicator, hcode, henough, hwhole, hlow, hhigh, hstatus, rfl, toNat_eq_iff.2 rfl, rfl,
      toNat_eq_iff.2 rfl, toNat_eq_iff.2 rfl, rfl⟩

/-- A reply is decoded exactly if it carries version information. -/
theorem decode_eq_ok_iff {r : List UInt8} {v : LocalVersion} :
    decode r = .ok v ↔ Carries r v := by
  rw [decode_eq, verdict_eq_ok_iff, carries_iff]

/-- The version information of a reply depends on its first fifteen bytes except the fourth, and on
there being as many bytes as it declares. -/
theorem Carries.of_agree {r r' : List UInt8} {v : LocalVersion} (h : Carries r v)
    (hsame : ∀ place, place < 15 → place ≠ 3 → byteAt r' place = byteAt r place)
    (hwhole : 3 + (byteAt r' 2).toNat ≤ r'.length) : Carries r' v where
  indicator := (hsame 0 (by decide) (by decide)).trans h.indicator
  code := (hsame 1 (by decide) (by decide)).trans h.code
  enough := by
    rw [hsame 2 (by decide) (by decide)]
    exact h.enough
  whole := hwhole
  opcode_low := (hsame 4 (by decide) (by decide)).trans h.opcode_low
  opcode_high := (hsame 5 (by decide) (by decide)).trans h.opcode_high
  status := (hsame 6 (by decide) (by decide)).trans h.status
  hciVersion := h.hciVersion.trans (hsame 7 (by decide) (by decide)).symm
  hciRevision := by
    rw [hsame 8 (by decide) (by decide), hsame 9 (by decide) (by decide)]
    exact h.hciRevision
  lmpVersion := h.lmpVersion.trans (hsame 10 (by decide) (by decide)).symm
  manufacturer := by
    rw [hsame 11 (by decide) (by decide), hsame 12 (by decide) (by decide)]
    exact h.manufacturer
  lmpSubversion := by
    rw [hsame 13 (by decide) (by decide), hsame 14 (by decide) (by decide)]
    exact h.lmpSubversion
  vendor := by
    rw [hsame 11 (by decide) (by decide), hsame 12 (by decide) (by decide)]
    exact h.vendor

/-- A reply that is laid out with version information carries it. -/
theorem carries_reply (v : LocalVersion) {declared : UInt8} (packets : UInt8) {tail : List UInt8}
    (henough : 12 ≤ declared.toNat) (hwhole : declared.toNat ≤ 12 + tail.length) :
    Carries (v.reply declared packets tail) v where
  indicator := rfl
  code := rfl
  enough := henough
  whole := by
    show 3 + declared.toNat ≤ (v.reply declared packets tail).length
    simp only [reply, returnParams, List.length_append, List.length_cons, List.length_nil]
    omega
  opcode_low := rfl
  opcode_high := rfl
  status := rfl
  hciVersion := rfl
  hciRevision := toNat_eq_iff.2 (LittleEndian.word_low_high v.hciRevision).symm
  lmpVersion := rfl
  manufacturer := toNat_eq_iff.2 (LittleEndian.word_low_high v.manufacturer).symm
  lmpSubversion := toNat_eq_iff.2 (LittleEndian.word_low_high v.lmpSubversion).symm
  vendor := congrArg Vendor.ofId (LittleEndian.word_low_high v.manufacturer).symm

/-- **Decoding accepts the successful answers to the version query.**  A reply is decoded exactly if
it carries version information, as that information, and is otherwise rejected for the first of its
faults.  Whatever the version information is, a reply that is laid out with it is decoded as it; and
a reply that is decoded stays so, as the same information, whatever is changed in it other than the
places of the header, the opcode, the status and the fields, as long as it is not cut off. -/
theorem decode_exact (r : List UInt8) :
    (∀ v, decode r = .ok v ↔ Carries r v) ∧
      (∀ e, decode r = .error e ↔
        ∃ fault, firstFault (checks r) = some fault ∧ e = .invalidReply fault) ∧
      (∀ (v : LocalVersion) (declared packets : UInt8) (tail : List UInt8),
        12 ≤ declared.toNat → declared.toNat ≤ 12 + tail.length →
        decode (v.reply declared packets tail) = .ok v) ∧
      (∀ v r', decode r = .ok v →
        (∀ place, place < 15 → place ≠ 3 → byteAt r' place = byteAt r place) →
        3 + (byteAt r' 2).toNat ≤ r'.length → decode r' = .ok v) := by
  refine ⟨fun v => decode_eq_ok_iff, ?_, ?_, ?_⟩
  · intro e
    rw [decode_eq, verdict_eq_error_iff]
  · intro v declared packets tail henough hwhole
    exact decode_eq_ok_iff.2 (carries_reply v packets henough hwhole)
  · intro v r' hdecoded hsame hwhole
    have hcarries : Carries r v := decode_eq_ok_iff.1 hdecoded
    exact decode_eq_ok_iff.2 (hcarries.of_agree hsame hwhole)

/-- A reply with version information. -/
def sampleReply : List UInt8 :=
  [0x04, 0x0E, 0x0C, 0x01, 0x01, 0x10, 0x00, 0x06, 0x02, 0x01, 0x06, 0x0D, 0x00, 0x22, 0x01]

/-- The reply is decoded, also with another number of commands and with more bytes behind it; for
another command that failed and with too few bytes, the command is what is reported. -/
theorem decode_sampleReply :
    decode sampleReply = .ok ⟨0x06, 0x0102, 0x06, 0x000D, 0x0122⟩ ∧
      decode (sampleReply.set 3 0xFF ++ [0xAA]) = .ok ⟨0x06, 0x0102, 0x06, 0x000D, 0x0122⟩ ∧
      decode [0x04, 0x0E, 0x04, 0x01, 0x03, 0x0C, 0x01]
        = .error (.invalidReply (.otherCommand 0x0C03 0x1001)) := by
  have hsample : decode sampleReply = .ok ⟨0x06, 0x0102, 0x06, 0x000D, 0x0122⟩ := by
    refine ((decode_exact sampleReply).1 _).2 ?_
    constructor <;> decide
  refine ⟨hsample, ?_, ?_⟩
  · exact (decode_exact sampleReply).2.2.2 _ _ hsample (by decide) (by decide)
  · exact ((decode_exact _).2.1 _).2 ⟨.otherCommand 0x0C03 0x1001, by decide, rfl⟩

end VersionProbe.LocalVersion
