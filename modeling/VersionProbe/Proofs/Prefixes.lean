/-
# Replies that are still arriving

A reply arrives in pieces, and a read can end between any two of them.  As long as the header or a
declared parameter is missing, the reply is incomplete: it is rejected, and what is read may change
with what comes.  Once it is not incomplete any more, it has been decided what it is or what is wrong
with it, and bytes that come later do not count.

* `parse_append_of_whole`, `parse_of_other` : the two ways in which a reply is decided.
* `incomplete_iff_meansMore` : by the fault alone one can tell that a reply is incomplete.
* `parse_append_eq_ok_iff` : which incomplete replies can still become events.
* `parse_settles` : the answer to a reply changes with later bytes exactly if it is incomplete.
-/
import Mathlib.Data.List.Basic
import VersionProbe.Proofs.Grammar

namespace VersionProbe

/-- Whether a fault is that bytes are missing at the end. -/
def ReplyFault.meansMore : ReplyFault → Bool
  | emptyReply => true
  | truncatedHeader => true
  | truncatedParameters _ _ => true
  | _ => false

namespace Event

open Check

/-! ## Replies that are decided -/

/-- `Incomplete d` says that bytes of a reply are missing: there is none, or it announces an event
and does not reach to the end of the header or of the parameters that the header declares. -/
def Incomplete (d : List UInt8) : Prop :=
  d = [] ∨
    byteAt d 0 = eventIndicator ∧ (d.length < 3 ∨ d.length < 3 + (byteAt d 2).toNat)

instance : DecidablePred Incomplete := fun d =>
  inferInstanceAs (Decidable (d = [] ∨
    byteAt d 0 = eventIndicator ∧ (d.length < 3 ∨ d.length < 3 + (byteAt d 2).toNat)))

/-- `Hopeless d` says that the header of a reply has arrived and declares fewer parameters than an
event of its code has. -/
def Hopeless (d : List UInt8) : Prop :=
  3 ≤ d.length ∧ (byteAt d 1 = commandCompleteCode ∨ byteAt d 1 = commandStatusCode) ∧
    (byteAt d 2).toNat < 4

/-- A reply is incomplete, or announces something other than an event, or is a whole event. -/
theorem incomplete_or_decided (d : List UInt8) :
    Incomplete d ∨ (∃ indicator rest, d = indicator :: rest ∧ indicator ≠ eventIndicator) ∨
      ∃ code declared body, d = eventIndicator :: code :: declared :: body ∧
        declared.toNat ≤ body.length := by
  rcases d with _ | ⟨indicator, rest⟩
  · exact Or.inl (Or.inl rfl)
  · by_cases hindicator : indicator = eventIndicator
    · subst hindicator
      rcases rest with _ | ⟨code, _ | ⟨declared, body⟩⟩
      · exact Or.inl (Or.inr ⟨rfl, Or.inl (by simp)⟩)
      · exact Or.inl (Or.inr ⟨rfl, Or.inl (by simp)⟩)
      · rcases Nat.lt_or_ge body.length declared.toNat with hcut | hwhole
        · refine Or.inl (Or.inr ⟨rfl, Or.inr ?_⟩)
          simp only [byteAt_cons_succ, byteAt_cons_zero, List.length_cons]
          omega
        · exact Or.inr (Or.inr ⟨code, declared, body, rfl, hwhole⟩)
    · exact Or.inr (Or.inl ⟨indicator, rest, rfl, hindicator⟩)

/-- A whole event is not incomplete. -/
theorem not_incomplete_of_whole {d : List UInt8} (hheader : 3 ≤ d.length)
    (hwhole : 3 + (byteAt d 2).toNat ≤ d.length) : ¬ Incomplete d := by
  rintro (rfl | ⟨-, hshort | hshort⟩)
  · cases hheader
  · omega
  · omega

/-- What follows a whole event does not count: neither for what it is, nor for what is wrong with
it. -/
theorem parse_append_of_whole {d : List UInt8} (hwhole : 3 + (byteAt d 2).toNat ≤ d.length)
    (later : List UInt8) : parse (d ++ later) = parse d := by
  rcases d with _ | ⟨indicator, _ | ⟨code, _ | ⟨declared, body⟩⟩⟩
  case cons.cons.cons =>
    simp only [byteAt_cons_succ, byteAt_cons_zero, List.length_cons] at hwhole
    have hbody : declared.toNat ≤ body.length := by omega
    have hreceived : ¬ body.length < declared.toNat := Nat.not_lt.2 hbody
    have hreceived' : ¬ (body ++ later).length < declared.toNat := by
      rw [List.length_append]
      omega
    simp only [List.cons_append, parse, if_neg hreceived, if_neg hreceived',
      List.take_append_of_le_length hbody]
  all_goals
    simp only [List.length_cons, List.length_nil] at hwhole
    omega

/-- A reply that announces something other than an event is rejected for its first byte, whatever
follows. -/
theorem parse_of_other {indicator : UInt8} (h : indicator ≠ eventIndicator) (rest : List UInt8) :
    parse (indicator :: rest) = .error (.invalidReply (.notAnEvent indicator)) :=
  if_neg h

/-- Unless a reply is incomplete, bytes that come later do not change what is read. -/
theorem parse_append_of_not_incomplete {d : List UInt8} (h : ¬ Incomplete d)
    (later : List UInt8) : parse (d ++ later) = parse d := by
  rcases incomplete_or_decided d with hincomplete | hother | hwhole
  · exact absurd hincomplete h
  · obtain ⟨indicator, rest, rfl, hindicator⟩ := hother
    rw [List.cons_append, parse_of_other hindicator, parse_of_other hindicator]
  · obtain ⟨code, declared, body, rfl, hwhole⟩ := hwhole
    refine parse_append_of_whole ?_ later
    show 3 + declared.toNat ≤ body.length + 3
    omega

/-- An event that is not incomplete is read from the bytes that its header declares. -/
theorem parse_eq_parse_take {d : List UInt8} (h : ¬ Incomplete d)
    (hindicator : byteAt d 0 = eventIndicator) :
    parse d = parse (d.take (3 + (byteAt d 2).toNat)) := by
  have hwhole : 3 + (byteAt d 2).toNat ≤ d.length := by
    by_contra hshort
    exact h (Or.inr ⟨hindicator, Or.inr (Nat.not_le.1 hshort)⟩)
  have htaken : 3 + (byteAt (d.take (3 + (byteAt d 2).toNat)) 2).toNat
      ≤ (d.take (3 + (byteAt d 2).toNat)).length := by
    rw [byteAt_take (by omega)]
    exact Nat.le_of_eq (List.length_take_of_le hwhole).symm
  have hsplit := parse_append_of_whole htaken (d.drop (3 + (byteAt d 2).toNat))
  rwa [List.take_append_drop] at hsplit

/-! ## Faults of incomplete replies -/

/-- A reply with all the bytes that it declares has another fault than that bytes are missing, if
it has any. -/
theorem meansMore_of_decided {d : List UInt8} (h : ¬ Incomplete d) {fault : ReplyFault}
    (hparse : parse d = .error (.invalidReply fault)) : fault.meansMore = false := by
  rcases incomplete_or_decided d with hincomplete | hother | hwhole
  · exact absurd hincomplete h
  · obtain ⟨indicator, rest, rfl, hindicator⟩ := hother
    rw [parse_of_other hindicator] at hparse
    obtain rfl := ProbeError.invalidReply.inj (Except.error.inj hparse)
    rfl
  · obtain ⟨code, declared, body, rfl, hwhole⟩ := hwhole
    rw [parse_eq, verdict_eq_error_iff, firstFault_checks_of_whole hwhole] at hparse
    obtain ⟨found, hfound, hsame⟩ := hparse
    obtain rfl := ProbeError.invalidReply.inj hsame
    -- Only the two faults of the parameters are left.
    unfold paramChecks firstFault at hfound
    split at hfound
    · obtain rfl := Option.some.inj hfound
      rfl
    · unfold firstFault at hfound
      split at hfound
      · obtain rfl := Option.some.inj hfound
        rfl
      · cases hfound

/-- An incomplete reply is rejected because bytes are missing. -/
theorem fault_of_incomplete {d : List UInt8} (h : Incomplete d) :
    ∃ fault, parse d = .error (.invalidReply fault) ∧ fault.meansMore = true := by
  rcases h with rfl | ⟨hindicator, hshort⟩
  · exact ⟨.emptyReply, rfl, rfl⟩
  · rcases d with _ | ⟨indicator, _ | ⟨code, _ | ⟨declared, body⟩⟩⟩
    · exact ⟨.emptyReply, rfl, rfl⟩
    · obtain rfl : indicator = eventIndicator := hindicator
      exact ⟨.truncatedHeader, rfl, rfl⟩
    · obtain rfl : indicator = eventIndicator := hindicator
      exact ⟨.truncatedHeader, rfl, rfl⟩
    · obtain rfl : indicator = eventIndicator := hindicator
      have hcut : body.length < declared.toNat := by
        simp only [byteAt_cons_succ, byteAt_cons_zero, List.length_cons] at hshort
        omega
      refine ⟨.truncatedParameters declared.toNat body.length, ?_, rfl⟩
      rw [parse_eq, verdict_of_fault (firstFault_checks_of_cut hcut)]

/-- A reply is incomplete exactly if it is rejected because bytes are missing. -/
theorem incomplete_iff_meansMore {d : List UInt8} :
    Incomplete d ↔
      ∃ fault, parse d = .error (.invalidReply fault) ∧ fault.meansMore = true := by
  refine ⟨fault_of_incomplete, ?_⟩
  rintro ⟨fault, hparse, hmore⟩
  by_contra hdecided
  rw [meansMore_of_decided hdecided hparse] at hmore
  cases hmore

/-! ## What can become of a reply -/

/-- A reply is read as some event exactly if it is in the grammar. -/
theorem exists_parse_eq_ok_iff {d : List UInt8} : (∃ e, parse d = .ok e) ↔ InGrammar d := by
  rw [inGrammar_iff, parse_eq]
  constructor
  · rintro ⟨e, he⟩
    exact (verdict_eq_ok_iff.1 he).1
  · exact fun hnone => ⟨_, verdict_of_none hnone⟩

/-- A header is completed to a reply by as many bytes as it declares. -/
theorem inGrammar_append_zeros {code declared : UInt8}
    (henough : code = commandCompleteCode ∨ code = commandStatusCode → 4 ≤ declared.toNat)
    (body : List UInt8) :
    InGrammar (eventIndicator :: code :: declared :: body
      ++ List.replicate declared.toNat 0) := by
  refine ⟨code, declared, body ++ List.replicate declared.toNat 0, rfl, ?_, henough⟩
  rw [List.length_append, List.length_replicate]
  exact Nat.le_add_left _ _

/-- An incomplete reply can still become an event unless its header rules that out. -/
theorem exists_inGrammar_append {d : List UInt8} (h : Incomplete d) (hopen : ¬ Hopeless d) :
    ∃ later, InGrammar (d ++ later) := by
  have hfour : ∀ code : UInt8, code = commandCompleteCode ∨ code = commandStatusCode →
      4 ≤ (4 : UInt8).toNat := fun _ _ => by decide
  rcases h with rfl | ⟨hindicator, -⟩
  · exact ⟨_, inGrammar_append_zeros (hfour 0) []⟩
  · rcases d with _ | ⟨indicator, _ | ⟨code, _ | ⟨declared, body⟩⟩⟩
    · exact ⟨_, inGrammar_append_zeros (hfour 0) []⟩
    · obtain rfl : indicator = eventIndicator := hindicator
      exact ⟨_, inGrammar_append_zeros (hfour 0) []⟩
    · obtain rfl : indicator = eventIndicator := hindicator
      exact ⟨_, inGrammar_append_zeros (hfour code) []⟩
    · obtain rfl : indicator = eventIndicator := hindicator
      refine ⟨_, inGrammar_append_zeros ?_ body⟩
      intro hcode
      by_contra hfew
      refine hopen ⟨?_, hcode, Nat.not_le.1 hfew⟩
      simp only [List.length_cons]
      omega

/-- A header that declares too few parameters is not mended by later bytes. -/
theorem not_inGrammar_append_of_hopeless {d : List UInt8} (h : Hopeless d) (later : List UInt8) :
    ¬ InGrammar (d ++ later) := by
  obtain ⟨hheader, hcode, hfew⟩ := h
  rcases d with _ | ⟨indicator, _ | ⟨code, _ | ⟨declared, body⟩⟩⟩
  case cons.cons.cons =>
    intro hgrammar
    obtain ⟨-, -, henough⟩ := inGrammar_iff_places.1 hgrammar
    have hfour : 4 ≤ declared.toNat := henough hcode
    exact absurd hfew (Nat.not_lt.2 hfour)
  all_goals
    simp only [List.length_cons, List.length_nil] at hheader
    omega

/-- An incomplete reply can still become an event exactly if its header does not rule that out. -/
theorem parse_append_eq_ok_iff {d : List UInt8} (h : Incomplete d) :
    (∃ later e, parse (d ++ later) = .ok e) ↔ ¬ Hopeless d := by
  simp only [exists_parse_eq_ok_iff]
  constructor
  · rintro ⟨later, hgrammar⟩ hhopeless
    exact not_inGrammar_append_of_hopeless hhopeless later hgrammar
  · exact exists_inGrammar_append h

/-- There are bytes that complete a reply. -/
theorem exists_not_incomplete_append (d : List UInt8) :
    ∃ later, ¬ Incomplete (d ++ later) := by
  have hlong : ∀ header : List UInt8, 3 ≤ header.length →
      ∃ later, ¬ Incomplete (header ++ later) := by
    intro header hheader
    refine ⟨List.replicate 255 0, not_incomplete_of_whole ?_ ?_⟩
    · rw [List.length_append]
      omega
    · have hbyte := (byteAt (header ++ List.replicate 255 0) 2).toNat_lt
      rw [List.length_append, List.length_replicate]
      omega
  rcases Nat.lt_or_ge d.length 3 with hshort | hheader
  · obtain ⟨later, hlater⟩ := hlong (d ++ [0, 0, 0]) (by simp)
    exact ⟨[0, 0, 0] ++ later, by rwa [← List.append_assoc]⟩
  · exact hlong d hheader

/-- **An answer is settled once nothing is missing.**  Unless a reply is incomplete, it is read the
same, as an event or as a fault, whatever comes after it, and if it announces an event, it is read
from the bytes that its header declares.  An incomplete reply is rejected, always because bytes are
missing and never otherwise, and there are bytes that make it an event unless its header declares
fewer parameters than an event of its code has.  So an event that is read never changes, and the
replies whose answer some later bytes change are exactly the incomplete ones. -/
theorem parse_settles (d : List UInt8) :
    (¬ Incomplete d → ∀ later, parse (d ++ later) = parse d) ∧
      (¬ Incomplete d → byteAt d 0 = eventIndicator →
        parse d = parse (d.take (3 + (byteAt d 2).toNat))) ∧
      (Incomplete d → ∃ e, parse d = .error e) ∧
      (Incomplete d ↔
        ∃ fault, parse d = .error (.invalidReply fault) ∧ fault.meansMore = true) ∧
      (Incomplete d → ((∃ later e, parse (d ++ later) = .ok e) ↔ ¬ Hopeless d)) ∧
      (∀ e, parse d = .ok e → ∀ later, parse (d ++ later) = .ok e) ∧
      (Incomplete d ↔ ∃ later, parse (d ++ later) ≠ parse d) := by
  refine ⟨parse_append_of_not_incomplete, parse_eq_parse_take, ?_, incomplete_iff_meansMore,
    parse_append_eq_ok_iff, ?_, ?_⟩
  · intro h
    obtain ⟨fault, hparse, -⟩ := fault_of_incomplete h
    exact ⟨_, hparse⟩
  · intro e hparse later
    have hdecided : ¬ Incomplete d := by
      intro h
      obtain ⟨fault, hrejected, -⟩ := fault_of_incomplete h
      rw [hparse] at hrejected
      cases hrejected
    rw [parse_append_of_not_incomplete hdecided, hparse]
  · constructor
    · intro h
      obtain ⟨later, hdecided⟩ := exists_not_incomplete_append d
      refine ⟨later, fun hsame => hdecided ?_⟩
      -- The same answer would be the same fault, and that says that bytes are missing.
      rw [incomplete_iff_meansMore, hsame]
      exact fault_of_incomplete h
    · rintro ⟨later, hchanged⟩
      by_contra hdecided
      exact hchanged (parse_append_of_not_incomplete hdecided later)

/-- Two bytes of a Command Status can still become an event; a header that declares three parameters
for it cannot, and changes its answer nevertheless; a whole event does not change any more, and
neither does a reply that begins with another byte. -/
theorem parse_settling :
    (∃ later e, parse ([0x04, 0x0F] ++ later) = .ok e) ∧
      (¬ ∃ later e, parse ([0x04, 0x0F, 0x03] ++ later) = .ok e) ∧
      (∃ later, parse ([0x04, 0x0F, 0x03] ++ later) ≠ parse [0x04, 0x0F, 0x03]) ∧
      parse ([0x04, 0x13, 0x01, 0xAA] ++ [0xBB]) = .ok (.other 0x13 [0xAA]) ∧
      parse ([0xAA] ++ [0x04, 0x13, 0x00]) = .error (.invalidReply (.notAnEvent 0xAA)) := by
  have hshort : Incomplete [0x04, 0x0F] := by decide
  have hdeclared : Incomplete [0x04, 0x0F, 0x03] := by decide
  refine ⟨?_, ?_, ?_, ?_, ?_⟩
  · refine ((parse_settles [0x04, 0x0F]).2.2.2.2.1 hshort).2 fun hhopeless => ?_
    exact absurd hhopeless.1 (by decide)
  · intro hevent
    refine ((parse_settles [0x04, 0x0F, 0x03]).2.2.2.2.1 hdeclared).1 hevent ⟨?_, Or.inr rfl, ?_⟩
    · decide
    · decide
  · exact (parse_settles [0x04, 0x0F, 0x03]).2.2.2.2.2.2.1 hdeclared
  · exact (parse_settles [0x04, 0x13, 0x01, 0xAA]).2.2.2.2.2.1 _ rfl [0xBB]
  · exact (parse_settles [0xAA]).1 (by decide) [0x04, 0x13, 0x00]

end Event

end VersionProbe
