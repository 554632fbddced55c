/-
# Streams apart from their chunks

The answers that a device has in store for its reads form a stream of bytes, ends and failures.
Two lists of answers hold the same stream when they become equal once the interrupted reads are
left out and neighbouring chunks of data are merged.  Here that is shown to be the same as holding
the same items one by one, and the reading of a reply is described on the items.

* `sameStream_iff` : two lists of answers hold the same stream exactly when they hold the same
  items.
* `harvest_bytes` : bytes that there is room for are read together or one by one alike.
-/
import VersionProbe.Device

namespace VersionProbe

/-! ## The same stream -/

namespace ReadStep

/-- Whether a step is an interrupted read. -/
def isInterrupted (step : ReadStep) : Bool :=
  match step.answer with
  | .ok _ => false
  | .error e => e.kind = .interrupted

/-- A step in front of others, with a chunk of data merged into the chunk that follows it. -/
def joinTo : ReadStep → List ReadStep → List ReadStep
  | ⟨advance, .ok (b :: bs)⟩, ⟨advance', .ok (c :: cs)⟩ :: rest =>
    ⟨advance + advance', .ok (b :: bs ++ c :: cs)⟩ :: rest
  | step, steps => step :: steps

/-- Some steps with neighbouring chunks of data merged. -/
def joined : List ReadStep → List ReadStep
  | [] => []
  | step :: rest => step.joinTo (joined rest)

/-- Some steps without interrupted reads and with neighbouring chunks of data merged. -/
def normalForm (steps : List ReadStep) : List ReadStep :=
  joined (steps.filter fun step => !step.isInterrupted)

/-- Two lists of steps hold the same stream if they differ only in interrupted reads and in how the
data is cut into chunks. -/
def SameStream (steps steps' : List ReadStep) : Prop :=
  normalForm steps = normalForm steps'

/-- An interrupted read does not show in the normal form. -/
theorem normalForm_cons_of_isInterrupted {step : ReadStep} (h : step.isInterrupted)
    (rest : List ReadStep) : normalForm (step :: rest) = normalForm rest := by
  unfold normalForm
  rw [List.filter_cons_of_neg (by simp [h])]

/-- Any other step is merged into the normal form of what follows. -/
theorem normalForm_cons_of_not {step : ReadStep} (h : ¬ step.isInterrupted)
    (rest : List ReadStep) : normalForm (step :: rest) = step.joinTo (normalForm rest) := by
  unfold normalForm
  rw [List.filter_cons_of_pos (by simp [h]), joined]

end ReadStep

/-! ## Items -/

/-- What a stream consists of. -/
inductive Item
  /-- A byte of data. -/
  | byte (b : UInt8)
  /-- A read that brings nothing. -/
  | stop
  /-- A read that fails, other than by being interrupted. -/
  | failure (e : IoError)

namespace ReadStep

/-- The items of a step. -/
def items (step : ReadStep) : List Item :=
  match step.answer with
  | .ok [] => [.stop]
  | .ok bytes => bytes.map .byte
  | .error e => if e.kind = .interrupted then [] else [.failure e]

/-- The items of some steps, one after the other. -/
def allItems (steps : List ReadStep) : List Item :=
  steps.flatMap items

/-- The steps in normal form that hold some items and take no time. -/
def ofItems : List Item → List ReadStep
  | [] => []
  | .byte b :: rest => joinTo ⟨0, .ok [b]⟩ (ofItems rest)
  | .stop :: rest => ⟨0, .ok []⟩ :: ofItems rest
  | .failure e :: rest => ⟨0, .error e⟩ :: ofItems rest

/-- The items of the first step come first. -/
theorem allItems_cons (step : ReadStep) (rest : List ReadStep) :
    allItems (step :: rest) = step.items ++ allItems rest :=
  List.flatMap_cons

/-- Merging a chunk into the next one keeps the items. -/
theorem allItems_joinTo (step : ReadStep) (steps : List ReadStep) :
    allItems (step.joinTo steps) = step.items ++ allItems steps := by
  unfold joinTo
  split
  · rw [allItems_cons, allItems_cons, ← List.append_assoc]
    exact congrArg (· ++ _) List.map_append
  · exact allItems_cons _ _

/-- An interrupted read holds no item. -/
theorem items_of_isInterrupted {step : ReadStep} (h : step.isInterrupted) : step.items = [] := by
  obtain ⟨advance, answer⟩ := step
  cases answer with
  | ok bytes => cases h
  | error e => exact if_pos (of_decide_eq_true h)

/-- The normal form keeps the items. -/
theorem allItems_normalForm (steps : List ReadStep) :
    allItems (normalForm steps) = allItems steps := by
  induction steps with
  | nil => rfl
  | cons step rest ih =>
    by_cases h : step.isInterrupted
    · rw [normalForm_cons_of_isInterrupted h, ih, allItems_cons, items_of_isInterrupted h]
      rfl
    · rw [normalForm_cons_of_not h, allItems_joinTo, ih, allItems_cons]

/-- A byte merged into a chunk and then into what follows is the longer chunk merged into it. -/
theorem joinTo_joinTo (b c : UInt8) (cs : List UInt8) (steps : List ReadStep) :
    joinTo ⟨0, .ok [b]⟩ (joinTo ⟨0, .ok (c :: cs)⟩ steps) = joinTo ⟨0, .ok (b :: c :: cs)⟩ steps := by
  rcases steps with _ | ⟨⟨advance, answer⟩, rest⟩
  · rfl
  · rcases answer with e | bytes
    · rfl
    · rcases bytes with _ | ⟨first, bytes⟩
      · rfl
      · simp [joinTo]

/-- A chunk merged into the normal form of some items is the normal form of its bytes and them. -/
theorem joinTo_ofItems (b : UInt8) (bs : List UInt8) (rest : List Item) :
    joinTo ⟨0, .ok (b :: bs)⟩ (ofItems rest) = ofItems ((b :: bs).map .byte ++ rest) := by
  induction bs generalizing b with
  | nil => rfl
  | cons c cs ih =>
    rw [List.map_cons, List.cons_append, ofItems, ← ih c, joinTo_joinTo]

/-- A step other than an interrupted read that takes no time, merged into the normal form of some
items, is the normal form of its items and them. -/
theorem joinTo_ofItems_of_not {answer : Except IoError (List UInt8)}
    (h : ¬ isInterrupted ⟨0, answer⟩) (rest : List Item) :
    joinTo ⟨0, answer⟩ (ofItems rest) = ofItems (items ⟨0, answer⟩ ++ rest) := by
  rcases answer with e | bytes
  · have hkind : e.kind ≠ .interrupted := fun hkind => h (decide_eq_true hkind)
    have hitems : items ⟨0, .error e⟩ = [.failure e] := if_neg hkind
    rw [hitems]
    rfl
  · rcases bytes with _ | ⟨b, bs⟩
    · rfl
    · exact joinTo_ofItems b bs rest

/-- The normal form of steps that take no time depends on their items only. -/
theorem normalForm_eq_ofItems {steps : List ReadStep} (hstill : ∀ step ∈ steps, step.advance = 0) :
    normalForm steps = ofItems (allItems steps) := by
  induction steps with
  | nil => rfl
  | cons step rest ih =>
    have hrest := ih fun other hother => hstill other (List.mem_cons_of_mem _ hother)
    obtain ⟨advance, answer⟩ := step
    obtain rfl : advance = 0 := hstill _ List.mem_cons_self
    by_cases h : isInterrupted ⟨0, answer⟩
    · rw [normalForm_cons_of_isInterrupted h, allItems_cons, items_of_isInterrupted h, hrest]
      rfl
    · rw [normalForm_cons_of_not h, allItems_cons, hrest, joinTo_ofItems_of_not h]

/-- Steps that take no time hold the same stream exactly when they hold the same items. -/
theorem sameStream_iff {steps steps' : List ReadStep} (hstill : ∀ step ∈ steps, step.advance = 0)
    (hstill' : ∀ step ∈ steps', step.advance = 0) :
    SameStream steps steps' ↔ allItems steps = allItems steps' := by
  unfold SameStream
  constructor
  · intro hsame
    rw [← allItems_normalForm steps, hsame, allItems_normalForm]
  · intro hsame
    rw [normalForm_eq_ofItems hstill, hsame, normalForm_eq_ofItems hstill']

end ReadStep

/-! ## Reading item by item -/

/-- What a reply with room for some more bytes gets out of a stream, and what is left of the
stream.  The reply ends when there is no room, at the end of the stream, and at a read that times
out, for which also the end of all items counts; any other failure loses it. -/
def harvest : Nat → List Item → Except IoError (List UInt8) × List Item
  | 0, rest => (.ok [], rest)
  | _ + 1, [] => (.ok [], [])
  | room + 1, .byte b :: rest => ((harvest room rest).1.map (b :: ·), (harvest room rest).2)
  | _ + 1, .stop :: rest => (.ok [], rest)
  | _ + 1, .failure e :: rest => (if e.kind = .timedOut then .ok [] else .error e, rest)

/-- Without room nothing is taken. -/
theorem harvest_of_no_room {room : Nat} (h : room = 0) (rest : List Item) :
    harvest room rest = (.ok [], rest) := by
  rw [h, harvest]

/-- Without items there is nothing to take. -/
theorem harvest_nil (room : Nat) : harvest room [] = (.ok [], []) := by
  cases room <;> rfl

/-- The end of the stream ends a reply that has room. -/
theorem harvest_stop {room : Nat} (hroom : 0 < room) (rest : List Item) :
    harvest room (.stop :: rest) = (.ok [], rest) := by
  obtain ⟨n, rfl⟩ := Nat.exists_eq_add_of_lt hroom
  rw [harvest]

/-- A failure ends or loses a reply that has room. -/
theorem harvest_failure {room : Nat} (hroom : 0 < room) (e : IoError) (rest : List Item) :
    harvest room (.failure e :: rest)
      = (if e.kind = .timedOut then .ok [] else .error e, rest) := by
  obtain ⟨n, rfl⟩ := Nat.exists_eq_add_of_lt hroom
  rw [harvest]

/-- Bytes that there is room for all come before what else there is. -/
theorem harvest_bytes (bytes : List UInt8) (rest : List Item) {room : Nat}
    (hfits : bytes.length ≤ room) :
    harvest room (bytes.map .byte ++ rest)
      = ((harvest (room - bytes.length) rest).1.map (bytes ++ ·),
          (harvest (room - bytes.length) rest).2) := by
  induction bytes generalizing room with
  | nil =>
    show harvest room rest = ((harvest room rest).1.map id, (harvest room rest).2)
    rw [Except.map_id]
    rfl
  | cons b bs ih =>
    rcases room with _ | n
    · exact absurd hfits (Nat.not_succ_le_zero _)
    · -- The first byte takes up one place, the others have the rest.
      have hrest : bs.length ≤ n := Nat.le_of_succ_le_succ hfits
      have hroom : n + 1 - (b :: bs).length = n - bs.length := Nat.add_sub_add_right n 1 bs.length
      rw [List.map_cons, List.cons_append, harvest, ih hrest, hroom]
      cases (harvest (n - bs.length) rest).1 <;> rfl

/-- Of bytes that there is no room for all, those are taken that there is room for. -/
theorem harvest_bytes_of_le {bytes : List UInt8} (rest : List Item) {room : Nat}
    (hfull : room ≤ bytes.length) :
    harvest room (bytes.map .byte ++ rest)
      = (.ok (bytes.take room), (bytes.drop room).map .byte ++ rest) := by
  have hfits : (bytes.take room).length = room := List.length_take_of_le hfull
  have hsplit : bytes.map Item.byte ++ rest
      = (bytes.take room).map .byte ++ ((bytes.drop room).map .byte ++ rest) := by
    rw [← List.append_assoc, ← List.map_append, List.take_append_drop]
  have hnone : room - (bytes.take room).length = 0 := by rw [hfits, Nat.sub_self]
  rw [hsplit, harvest_bytes _ _ (Nat.le_of_eq hfits), harvest_of_no_room hnone]
  exact congrArg (fun taken => (Except.ok taken, _)) (List.append_nil _)

end VersionProbe
