/-
# Packets and events

An event is read back from its packet, and a packet is rebuilt from the event that it is read as.
Only a Command Status can have a packet that says more than the event keeps: parameters after the
fourth are surplus, and they count in the length that the packet declares.

* `parse_eq_ok_iff` : the packets that are read as an event are its packet with surplus parameters,
  and whatever follows.
* `Packs.surplus_eq_nil` : no other event than a Command Status has surplus parameters.
-/
import VersionProbe.Proofs.Grammar

namespace VersionProbe.Event

/-! ## Surplus parameters -/

/-- Whether an event is a Command Status. -/
def isStatus : Event → Bool
  | commandStatus _ _ _ => true
  | _ => false

/-- The packet of an event with surplus parameters after its own. -/
def encodeWith (surplus : List UInt8) (e : Event) : List UInt8 :=
  eventIndicator :: e.code :: UInt8.ofNat (e.params ++ surplus).length :: (e.params ++ surplus)

/-- `Packs e surplus` says that an event has a packet with these surplus parameters: the one-byte
length reaches as far, and only a Command Status has any. -/
structure Packs (e : Event) (surplus : List UInt8) : Prop where
  fits : e.Fits
  length_le : (e.params ++ surplus).length ≤ 255
  surplus_eq_nil : e.isStatus = false → surplus = []

/-- Without surplus parameters a packet is the packet of the event. -/
theorem encodeWith_nil (e : Event) : e.encodeWith [] = e.encode := by
  rw [encodeWith, encode, List.append_nil]

/-- A Command Complete fits if it returns at most 251 bytes. -/
theorem fits_commandComplete_iff {packets status : UInt8} {opcode : UInt16}
    {returnParams : List UInt8} :
    (commandComplete packets opcode status returnParams).Fits ↔ returnParams.length ≤ 251 := by
  show returnParams.length + 1 + 1 + 1 + 1 ≤ 255 ↔ returnParams.length ≤ 251
  omega

/-- A Command Status always fits. -/
theorem fits_commandStatus (status packets : UInt8) (opcode : UInt16) :
    (commandStatus status packets opcode).Fits := by
  show 4 ≤ 255
  decide

/-- A Command Status can have as many surplus parameters as the one-byte length leaves. -/
theorem packs_commandStatus {status packets : UInt8} {opcode : UInt16} {surplus : List UInt8}
    (h : surplus.length ≤ 251) : Packs (commandStatus status packets opcode) surplus := by
  refine ⟨fits_commandStatus _ _ _, ?_, fun hnot => by cases hnot⟩
  show surplus.length + 1 + 1 + 1 + 1 ≤ 255
  omega

section Packs

variable {e : Event} {surplus : List UInt8}

/-- An event that fits has a packet without surplus parameters. -/
theorem packs_nil (h : e.Fits) : Packs e [] := by
  refine ⟨h, ?_, fun _ => rfl⟩
  rw [List.append_nil]
  exact length_params_le h

/-- The third byte of a packet is the number of its parameters, and surplus ones count. -/
theorem Packs.byteAt_two (h : Packs e surplus) (later : List UInt8) :
    (byteAt (e.encodeWith surplus ++ later) 2).toNat = (e.params ++ surplus).length := by
  have hlength := h.length_le
  show (UInt8.ofNat (e.params ++ surplus).length).toNat = _
  rw [UInt8.toNat_ofNat']
  omega

/-- A packet is three bytes longer than it declares. -/
theorem Packs.length_encodeWith (h : Packs e surplus) (later : List UInt8) :
    3 + (byteAt (e.encodeWith surplus ++ later) 2).toNat = (e.encodeWith surplus).length := by
  rw [h.byteAt_two]
  show 3 + (e.params ++ surplus).length = (e.params ++ surplus).length + 1 + 1 + 1
  omega

/-! ## Reading -/

/-- Parameters with surplus ones are read as the event that they belong to. -/
theorem Packs.ofParams_eq (h : Packs e surplus) :
    ofParams e.code (e.params ++ surplus) = .ok e := by
  cases e with
  | commandStatus status packets opcode =>
    simp [ofParams, code, params, LittleEndian.word_low_high, commandCompleteCode,
      commandStatusCode]
  | commandComplete packets opcode status returnParams =>
    rw [h.surplus_eq_nil rfl, List.append_nil]
    exact ofParams_code_params h.fits
  | other code params =>
    rw [h.surplus_eq_nil rfl, List.append_nil]
    exact ofParams_code_params h.fits

/-- Parameters that are read as an event are those of the event and surplus ones. -/
theorem packs_of_ofParams {code : UInt8} {params : List UInt8} (hlength : params.length ≤ 255)
    (h : ofParams code params = .ok e) :
    e.code = code ∧ ∃ surplus, params = e.params ++ surplus ∧ Packs e surplus := by
  unfold ofParams at h
  split at h
  · next hcode =>
    split at h
    · next packets low high status returnParams =>
      obtain rfl := Except.ok.inj h
      have hparams : packets :: low :: high :: status :: returnParams
          = (commandComplete packets (LittleEndian.word low high) status returnParams).params := by
        rw [Event.params, LittleEndian.low_word, LittleEndian.high_word]
      rw [hparams] at hlength ⊢
      exact ⟨hcode.symm, [], (List.append_nil _).symm, packs_nil hlength⟩
    · cases h
  · next hcomplete =>
    split at h
    · next hcode =>
      split at h
      · next status packets low high surplus =>
        obtain rfl := Except.ok.inj h
        have hparams : status :: packets :: low :: high :: surplus
            = (commandStatus status packets (LittleEndian.word low high)).params ++ surplus := by
          rw [Event.params, LittleEndian.low_word, LittleEndian.high_word]
          rfl
        rw [hparams] at hlength ⊢
        refine ⟨hcode.symm, surplus, rfl, fits_commandStatus _ _ _, hlength, ?_⟩
        intro hnot
        cases hnot
      · cases h
    · next hstatus =>
      obtain rfl := Except.ok.inj h
      exact ⟨rfl, [], (List.append_nil _).symm, packs_nil ⟨hlength, hcomplete, hstatus⟩⟩

/-- The packets that are read as an event are its packet, where it has one, with surplus parameters
and followed by anything. -/
theorem parse_eq_ok_iff {d : List UInt8} :
    parse d = .ok e ↔ ∃ surplus later, Packs e surplus ∧ d = e.encodeWith surplus ++ later := by
  constructor
  · intro h
    rcases rejected_or_whole d with ⟨fault, -, hparse⟩ | ⟨code, declared, body, rfl, hwhole⟩
    · rw [h] at hparse
      cases hparse
    · have hreceived : ¬ body.length < declared.toNat := Nat.not_lt.2 hwhole
      have htaken : (body.take declared.toNat).length = declared.toNat :=
        List.length_take_of_le hwhole
      have hlength : (body.take declared.toNat).length ≤ 255 := by
        have hbyte : declared.toNat < 256 := declared.toNat_lt
        omega
      rw [parse, if_pos rfl] at h
      simp only [if_neg hreceived] at h
      obtain ⟨rfl, surplus, hparams, hpacks⟩ := packs_of_ofParams hlength h
      refine ⟨surplus, body.drop declared.toNat, hpacks, ?_⟩
      -- The bytes after the header are the parameters and what follows them.
      rw [encodeWith, ← hparams, htaken, UInt8.ofNat_toNat]
      simp only [List.cons_append, List.take_append_drop]
  · rintro ⟨surplus, later, hpacks, rfl⟩
    have hdeclared : (UInt8.ofNat (e.params ++ surplus).length).toNat
        = (e.params ++ surplus).length := hpacks.byteAt_two later
    have hreceived : ¬ (e.params ++ surplus ++ later).length < (e.params ++ surplus).length := by
      rw [List.length_append]
      omega
    have hframe : e.encodeWith surplus ++ later = eventIndicator :: e.code
        :: UInt8.ofNat (e.params ++ surplus).length :: (e.params ++ surplus ++ later) := rfl
    rw [hframe, parse, if_pos rfl]
    simp only [hdeclared, if_neg hreceived, List.take_left]
    exact hpacks.ofParams_eq

/-- An event other than a Command Status is read from a packet that begins with the packet of the
event, and the packet of the event is as long as its header says. -/
theorem encode_eq_take {d : List UInt8} (h : parse d = .ok e) (hkind : e.isStatus = false) :
    e.encode = d.take (3 + (byteAt d 2).toNat) := by
  obtain ⟨surplus, later, hpacks, rfl⟩ := parse_eq_ok_iff.1 h
  obtain rfl := hpacks.surplus_eq_nil hkind
  rw [hpacks.length_encodeWith, List.take_left, encodeWith_nil]

/-- Such a packet declares as many parameters as the packet of the event. -/
theorem byteAt_encode_two {d : List UInt8} (h : parse d = .ok e) (hkind : e.isStatus = false) :
    byteAt e.encode 2 = byteAt d 2 := by
  rw [encode_eq_take h hkind, byteAt_take (by omega)]

end Packs

/-- The packet of a Command Status agrees with any packet that is read as it in the bytes of the
indicator, the code and the first four parameters. -/
theorem byteAt_encode_commandStatus {status packets : UInt8} {opcode : UInt16} {d : List UInt8}
    (h : parse d = .ok (commandStatus status packets opcode)) :
    7 ≤ d.length ∧ ∀ place ∈ [0, 1, 3, 4, 5, 6],
      byteAt (commandStatus status packets opcode).encode place = byteAt d place := by
  obtain ⟨surplus, later, -, rfl⟩ := parse_eq_ok_iff.1 h
  constructor
  · show 7 ≤ (surplus ++ later).length + 1 + 1 + 1 + 1 + 1 + 1 + 1
    omega
  · intro place hplace
    simp only [List.mem_cons, List.not_mem_nil, or_false] at hplace
    rcases hplace with rfl | rfl | rfl | rfl | rfl | rfl <;> rfl

/-- **Reading and writing packets are inverse to each other.**  An event that fits is read back from
its packet, whatever follows.  A packet that is read as an event is as long as it declares, and
unless the event is a Command Status, it begins with the packet of the event; two packets that are
read as the same such event begin alike.  With the packet of a Command Status it agrees in the
indicator, the code and the first four parameters, and only there: any length that is declared and
any surplus parameters are read as the same event. -/
theorem parse_inverts_encode (e : Event) :
    (e.Fits → ∀ later, parse (e.encode ++ later) = .ok e) ∧
      (∀ d, parse d = .ok e → e.Fits ∧ 3 + (byteAt d 2).toNat ≤ d.length) ∧
      (e.isStatus = false → ∀ d, parse d = .ok e → e.encode = d.take (3 + (byteAt d 2).toNat)) ∧
      (e.isStatus = false → ∀ d d', parse d = .ok e → parse d' = .ok e →
        byteAt d 2 = byteAt d' 2 ∧
          d.take (3 + (byteAt d 2).toNat) = d'.take (3 + (byteAt d 2).toNat)) ∧
      (e.isStatus = true → ∀ d, parse d = .ok e →
        7 ≤ d.length ∧ ∀ place ∈ [0, 1, 3, 4, 5, 6], byteAt e.encode place = byteAt d place) ∧
      (e.isStatus = true → ∀ surplus later, surplus.length ≤ 251 →
        parse (eventIndicator :: e.code :: UInt8.ofNat (4 + surplus.length)
          :: (e.params ++ surplus ++ later)) = .ok e) := by
  refine ⟨fun hfits later => parse_encode_append hfits later, ?_, ?_, ?_, ?_, ?_⟩
  · intro d h
    obtain ⟨surplus, later, hpacks, rfl⟩ := parse_eq_ok_iff.1 h
    refine ⟨hpacks.fits, ?_⟩
    rw [hpacks.length_encodeWith, List.length_append]
    exact Nat.le_add_right _ _
  · exact fun hkind d h => encode_eq_take h hkind
  · intro hkind d d' h h'
    have hsame : byteAt d 2 = byteAt d' 2 := by
      rw [← byteAt_encode_two h hkind, byteAt_encode_two h' hkind]
    refine ⟨hsame, ?_⟩
    rw [← encode_eq_take h hkind, hsame, ← encode_eq_take h' hkind]
  · intro hkind d h
    cases e with
    | commandStatus status packets opcode => exact byteAt_encode_commandStatus h
    | commandComplete packets opcode status returnParams => cases hkind
    | other code params => cases hkind
  · intro hkind surplus later hshort
    cases e with
    | commandStatus status packets opcode =>
      have hpacks : Packs (commandStatus status packets opcode) surplus :=
        packs_commandStatus (by omega)
      refine parse_eq_ok_iff.2 ⟨surplus, later, hpacks, ?_⟩
      rw [Nat.add_comm]
      rfl
    | commandComplete packets opcode status returnParams => cases hkind
    | other code params => cases hkind

/-- A Command Complete is read back although a byte follows it, an event without parameters is
rebuilt from the beginning of what it was read from, and a Command Status is read from a packet that
declares two surplus parameters. -/
theorem parse_withSurplus :
    parse ((commandComplete 1 0x1001 0 [0x06, 0x02]).encode ++ [0xFF])
        = .ok (commandComplete 1 0x1001 0 [0x06, 0x02]) ∧
      (other 0x13 []).encode = [0x04, 0x13, 0x00, 0xAA].take 3 ∧
      parse [0x04, 0x0F, 0x06, 0x01, 0x01, 0x01, 0x10, 0xAA, 0xBB, 0xCC]
        = .ok (commandStatus 1 1 0x1001) := by
  refine ⟨?_, ?_, ?_⟩
  · exact (parse_inverts_encode _).1 (fits_commandComplete_iff.2 (by decide)) [0xFF]
  · exact (parse_inverts_encode (other 0x13 [])).2.2.1 rfl [0x04, 0x13, 0x00, 0xAA] rfl
  · exact (parse_inverts_encode (commandStatus 1 1 0x1001)).2.2.2.2.2 rfl [0xAA, 0xBB] [0xCC]
      (by decide)

end VersionProbe.Event
