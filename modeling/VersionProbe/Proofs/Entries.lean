/-
# The entries of a listing

A machine says what ports it has in two places: the enumeration of the serial layer, which may name
a port several times and may fail, and the device directory, which knows nothing but names and may
not be readable.  Each name found in either place is listed once, with what the enumeration says
about it first; a device file adds a name at most.

* `mem_distinctPorts_iff` : of several ports with one name the first is kept, and no other.
* `mem_entries_iff` : where an entry comes from.
* `Inventory.Lists` : the listings that a machine may be given, whatever the order of its entries.
* `listing_complete` : the listing that a run prints is one of them.
* `listing_loses_nothing` : every listing holds each port once, with the right data, and does not
  depend on what is said repeatedly.
-/
import Mathlib
import VersionProbe.Listing

namespace VersionProbe

/-! ## Distinct ports -/

/-- A port is kept exactly if it is the first one of its name. -/
theorem mem_distinctPorts_iff {p : Port} {ports : List Port} :
    p ∈ distinctPorts ports ↔ ports.find? (fun q => q.name = p.name) = some p := by
  induction ports with
  | nil => simp [distinctPorts]
  | cons first rest ih =>
    rw [distinctPorts, List.mem_cons, List.mem_filter, ih, List.find?_cons]
    by_cases hname : first.name = p.name
    · simp [hname, eq_comm]
    · have hne : p ≠ first := fun h => hname (congrArg Port.name h).symm
      simp [hname, hne, Ne.symm hname]

/-- The names of distinct ports are distinct. -/
theorem nodup_names_distinctPorts (ports : List Port) :
    ((distinctPorts ports).map Port.name).Nodup := by
  induction ports with
  | nil => exact List.nodup_nil
  | cons first rest ih =>
    rw [distinctPorts, List.map_cons, List.nodup_cons]
    refine ⟨?_, ih.sublist (List.filter_sublist.map Port.name)⟩
    -- Ports with the name of the first one were left out.
    intro hmem
    obtain ⟨q, hq, hname⟩ := List.mem_map.1 hmem
    exact of_decide_eq_true (List.mem_filter.1 hq).2 hname

/-! ## Enumerated ports -/

/-- The USB device behind an enumerated port, if there is one. -/
def SerialPort.usb? (p : SerialPort) : Option UsbDevice :=
  match p.bus with
  | .usb device => some device
  | _ => none

/-- The listing keeps the name of an enumerated port and the USB device behind it. -/
theorem Port.usb_ofSerial (p : SerialPort) : (Port.ofSerial p).usb = p.usb? := by
  rw [ofSerial, SerialPort.usb?]
  cases p.bus <;> rfl

namespace Inventory

/-- The ports that the serial layer enumerates; an enumeration that fails has none. -/
def serialPorts (i : Inventory) : List SerialPort :=
  match i.enumeration with
  | .ok ports => ports
  | .error _ => []

/-- The names in the device directory; one that cannot be read has none. -/
def files (i : Inventory) : List ByteArray :=
  i.directory.getD []

/-- The first port of some name that the serial layer enumerates. -/
def first? (name : String) (i : Inventory) : Option SerialPort :=
  i.serialPorts.find? fun q => q.name = name

/-- The enumerated ports are those of the serial layer, as the listing keeps them. -/
theorem enumerated_eq (i : Inventory) : i.enumerated = i.serialPorts.map Port.ofSerial := by
  rw [enumerated, serialPorts]
  cases i.enumeration <;> rfl

/-- The first enumerated port of a name is the first one of the serial layer. -/
theorem find?_enumerated (name : String) (i : Inventory) :
    i.enumerated.find? (fun q => q.name = name) = (i.first? name).map Port.ofSerial := by
  rw [enumerated_eq, List.find?_map, first?]
  congr 2
  funext q
  exact congrArg (fun n : String => decide (n = name)) (Port.name_ofSerial q)

/-- The first enumerated port of a name has this name. -/
theorem name_of_first? {name : String} {i : Inventory} {q : SerialPort}
    (h : i.first? name = some q) : q.name = name := by
  have hname := List.find?_some h
  exact of_decide_eq_true hname

/-- A name is enumerated exactly if there is a first port of that name. -/
theorem isSome_first?_iff {name : String} {i : Inventory} :
    (i.first? name).isSome = true ↔ ∃ q ∈ i.serialPorts, q.name = name := by
  simp [first?, List.find?_isSome]

end Inventory

/-! ## Device files -/

/-- Bytes are read as the text that they encode. -/
theorem fromUTF8?_eq_some_iff {bytes : ByteArray} {text : String} :
    String.fromUTF8? bytes = some text ↔ bytes = text.toUTF8 := by
  unfold String.fromUTF8?
  constructor
  · intro h
    split at h
    · rw [← Option.some.inj h]
      rfl
    · cases h
  · rintro rfl
    rw [String.toUTF8_eq_toByteArray, dif_pos text.isValidUTF8]
    rfl

/-- `MarksPort text` says that a text begins like the name of a serial device. -/
def MarksPort (text : String) : Prop :=
  "ttyACM".toList <+: text.toList ∨ "ttyUSB".toList <+: text.toList

/-- A text does not begin with some characters if nothing is left of it after them. -/
theorem not_prefix_of_isPrefixOf? {mark cs : List Char} (h : mark.isPrefixOf? cs = none) :
    ¬ mark <+: cs := by
  rintro ⟨suffix, hsuffix⟩
  rw [List.isPrefixOf?_eq_some_iff_append_eq.2 hsuffix] at h
  cases h

/-- A port is in the last group exactly if its name begins with neither mark. -/
theorem PortGroup.ofBase_eq_rest_iff {base : List Char} :
    (∃ suffix, ofBase base = (.rest, suffix)) ↔
      ¬ ("ttyACM".toList <+: base ∨ "ttyUSB".toList <+: base) := by
  unfold ofBase
  cases hacm : "ttyACM".toList.isPrefixOf? base with
  | some suffix =>
    have hprefix : "ttyACM".toList <+: base :=
      ⟨suffix, List.isPrefixOf?_eq_some_iff_append_eq.1 hacm⟩
    constructor
    · rintro ⟨_, hrest⟩
      cases hrest
    · exact fun hnot => absurd (Or.inl hprefix) hnot
  | none =>
    cases husb : "ttyUSB".toList.isPrefixOf? base with
    | some suffix =>
      have hprefix : "ttyUSB".toList <+: base :=
        ⟨suffix, List.isPrefixOf?_eq_some_iff_append_eq.1 husb⟩
      constructor
      · rintro ⟨_, hrest⟩
        cases hrest
      · exact fun hnot => absurd (Or.inr hprefix) hnot
    | none =>
      have hneither := not_or.2 ⟨not_prefix_of_isPrefixOf? hacm, not_prefix_of_isPrefixOf? husb⟩
      exact ⟨fun _ => hneither, fun _ => ⟨base, rfl⟩⟩

/-- A name in the device directory stands for a port if it is text that begins like the name of a
serial device; nothing but the name of the port is known then. -/
theorem devicePort?_eq_some_iff {file : ByteArray} {p : Port} :
    devicePort? file = some p ↔
      ∃ text : String, file = text.toUTF8 ∧ MarksPort text ∧ p = .bare ("/dev/" ++ text) := by
  unfold devicePort?
  constructor
  · intro h
    split at h
    · cases h
    · next text htext =>
      split at h
      · cases h
      · next hgroup =>
        refine ⟨text, fromUTF8?_eq_some_iff.1 htext, ?_, (Option.some.inj h).symm⟩
        by_contra hnot
        obtain ⟨suffix, hrest⟩ := PortGroup.ofBase_eq_rest_iff.2 hnot
        exact hgroup suffix hrest
  · rintro ⟨text, hfile, hmark, rfl⟩
    rw [fromUTF8?_eq_some_iff.2 hfile]
    dsimp only
    split
    · next suffix hrest => exact absurd hmark (PortGroup.ofBase_eq_rest_iff.1 ⟨suffix, hrest⟩)
    · rfl

namespace Inventory

variable {i : Inventory} {p : Port}

/-- The ports of the device directory are those that its names stand for. -/
theorem mem_deviceFiles_iff :
    p ∈ i.deviceFiles ↔
      ∃ text : String, text.toUTF8 ∈ i.files ∧ MarksPort text ∧ p = .bare ("/dev/" ++ text) := by
  rw [deviceFiles, List.mem_filterMap]
  constructor
  · rintro ⟨file, hfile, hport⟩
    obtain ⟨text, rfl, hmark, hp⟩ := devicePort?_eq_some_iff.1 hport
    exact ⟨text, hfile, hmark, hp⟩
  · rintro ⟨text, hfile, hmark, hp⟩
    exact ⟨_, hfile, devicePort?_eq_some_iff.2 ⟨text, rfl, hmark, hp⟩⟩

/-- Of a port in the device directory nothing but the name is known. -/
theorem eq_bare_of_mem_deviceFiles (h : p ∈ i.deviceFiles) : p = .bare p.name := by
  obtain ⟨text, -, -, rfl⟩ := mem_deviceFiles_iff.1 h
  rfl

/-- So the first port of some name in the device directory is any port of that name there. -/
theorem find?_deviceFiles_eq_some_iff :
    i.deviceFiles.find? (fun q => q.name = p.name) = some p ↔ p ∈ i.deviceFiles := by
  constructor
  · exact List.mem_of_find?_eq_some
  · intro hmem
    have hsome : (i.deviceFiles.find? fun q => q.name = p.name).isSome = true :=
      List.find?_isSome.2 ⟨p, hmem, decide_eq_true rfl⟩
    obtain ⟨q, hq⟩ := Option.isSome_iff_exists.1 hsome
    have hfound := List.find?_some hq
    have hname : q.name = p.name := of_decide_eq_true hfound
    rw [hq, eq_bare_of_mem_deviceFiles (List.mem_of_find?_eq_some hq), hname,
      ← eq_bare_of_mem_deviceFiles hmem]

/-! ## Entries -/

/-- An entry is the first enumerated port of its name, or a device file of a name that is not
enumerated. -/
theorem mem_entries_iff :
    p ∈ i.entries ↔
      (i.first? p.name).map Port.ofSerial = some p ∨
        i.first? p.name = none ∧ p ∈ i.deviceFiles := by
  rw [entries, mem_distinctPorts_iff, List.find?_append, find?_enumerated]
  cases hfirst : i.first? p.name with
  | some q => simp
  | none =>
    rw [Option.map_none, Option.none_or, find?_deviceFiles_eq_some_iff]
    simp

/-- The names of the entries are distinct. -/
theorem nodup_names_entries (i : Inventory) : (i.entries.map Port.name).Nodup :=
  nodup_names_distinctPorts _

/-- The entries have the names that are enumerated, and those of the device files. -/
theorem exists_entry_iff {name : String} :
    (∃ p ∈ i.entries, p.name = name) ↔
      (∃ q ∈ i.serialPorts, q.name = name) ∨
        ∃ text : String, text.toUTF8 ∈ i.files ∧ MarksPort text ∧ name = "/dev/" ++ text := by
  rw [← isSome_first?_iff]
  constructor
  · rintro ⟨p, hentry, rfl⟩
    rcases mem_entries_iff.1 hentry with hserial | ⟨-, hfile⟩
    · obtain ⟨q, hq, -⟩ := Option.map_eq_some_iff.1 hserial
      exact Or.inl (Option.isSome_iff_exists.2 ⟨q, hq⟩)
    · obtain ⟨text, hmem, hmark, hp⟩ := mem_deviceFiles_iff.1 hfile
      exact Or.inr ⟨text, hmem, hmark, congrArg Port.name hp⟩
  · intro h
    cases hfirst : i.first? name with
    | some q =>
      have hname : (Port.ofSerial q).name = name :=
        (Port.name_ofSerial q).trans (name_of_first? hfirst)
      refine ⟨.ofSerial q, mem_entries_iff.2 (Or.inl ?_), hname⟩
      rw [hname, hfirst, Option.map_some]
    | none =>
      rw [hfirst] at h
      obtain ⟨text, hmem, hmark, rfl⟩ := h.resolve_left Bool.false_ne_true
      refine ⟨.bare ("/dev/" ++ text), mem_entries_iff.2 (Or.inr ⟨hfirst, ?_⟩), rfl⟩
      exact mem_deviceFiles_iff.2 ⟨text, hmem, hmark, rfl⟩

/-- The USB device behind an entry is the one behind the first enumerated port of that name. -/
theorem usb_of_mem_entries (h : p ∈ i.entries) :
    p.usb = (i.first? p.name).bind SerialPort.usb? := by
  rcases mem_entries_iff.1 h with hserial | ⟨hnone, hfile⟩
  · obtain ⟨q, hq, hp⟩ := Option.map_eq_some_iff.1 hserial
    rw [hq, Option.bind_some, ← Port.usb_ofSerial, hp]
  · rw [hnone, Option.bind_none, eq_bare_of_mem_deviceFiles hfile]
    rfl

/-- Machines with the same first port of each name and the same device files have the same
entries. -/
theorem entries_perm {j : Inventory} (hfirst : ∀ name, i.first? name = j.first? name)
    (hfiles : ∀ file, file ∈ i.files ↔ file ∈ j.files) : i.entries.Perm j.entries := by
  refine (List.perm_ext_iff_of_nodup ((nodup_names_entries i).of_map Port.name)
    ((nodup_names_entries j).of_map Port.name)).2 ?_
  intro p
  rw [mem_entries_iff, mem_entries_iff, hfirst, mem_deviceFiles_iff, mem_deviceFiles_iff]
  simp only [hfiles]

/-- The entries do not depend on the order of the device files, or on how often they are given. -/
theorem entries_perm_of_files {files : List ByteArray} (h : ∀ file, file ∈ files ↔ file ∈ i.files) :
    ({ i with directory := some files } : Inventory).entries.Perm i.entries :=
  entries_perm (fun _ => rfl) h

/-- A port that is enumerated after another one of its name is not the first of any name. -/
theorem find?_of_named_before {before after : List SerialPort} {q : SerialPort}
    (h : q.name ∈ before.map SerialPort.name) (name : String) :
    (before ++ q :: after).find? (fun q => q.name = name)
      = (before ++ after).find? (fun q => q.name = name) := by
  rw [List.find?_append, List.find?_append, List.find?_cons]
  by_cases hname : q.name = name
  · obtain ⟨earlier, hmem, hsame⟩ := List.mem_map.1 h
    have hsome : (before.find? fun q => q.name = name).isSome = true :=
      List.find?_isSome.2 ⟨earlier, hmem, decide_eq_true (hsame.trans hname)⟩
    obtain ⟨first, hfirst⟩ := Option.isSome_iff_exists.1 hsome
    rw [hfirst, Option.some_or, Option.some_or]
  · rw [decide_eq_false hname]

/-- The entries do not depend on a port that is enumerated after another one of its name. -/
theorem entries_perm_of_named_before {before after : List SerialPort} {q : SerialPort}
    (henumeration : i.enumeration = .ok (before ++ q :: after))
    (hbefore : q.name ∈ before.map SerialPort.name) :
    ({ i with enumeration := .ok (before ++ after) } : Inventory).entries.Perm i.entries := by
  refine entries_perm (fun name => ?_) fun file => Iff.rfl
  rw [first?, first?, serialPorts, serialPorts, henumeration]
  exact (find?_of_named_before hbefore name).symm

/-! ## Listings -/

/-- `i.Lists ports` says that `ports` is a listing of the machine: its entries, handed out in some
order and then arranged. -/
def Lists (i : Inventory) (ports : List Port) : Prop :=
  ∃ handedOut, handedOut.Perm i.entries ∧ arrange handedOut = ports

/-- The listing that hands out the entries by their names is one of them. -/
theorem lists_listing (i : Inventory) : i.Lists i.listing :=
  ⟨_, List.mergeSort_perm _ _, rfl⟩

/-- A listing holds the entries in some order. -/
theorem Lists.perm {ports : List Port} (h : i.Lists ports) : ports.Perm i.entries := by
  obtain ⟨handedOut, hperm, rfl⟩ := h
  exact (arrange_perm handedOut).trans hperm

section Lists

variable {ports : List Port} (h : i.Lists ports)

include h

/-- The ports of a listing have distinct names. -/
theorem Lists.nodup_names : (ports.map Port.name).Nodup :=
  (h.perm.map Port.name).nodup_iff.2 (nodup_names_entries i)

/-- A listing has the names that are enumerated, and those of the device files. -/
theorem Lists.exists_name_iff (name : String) :
    (∃ p ∈ ports, p.name = name) ↔
      (∃ q ∈ i.serialPorts, q.name = name) ∨
        ∃ text : String, text.toUTF8 ∈ i.files ∧ MarksPort text ∧ name = "/dev/" ++ text := by
  simp only [h.perm.mem_iff, exists_entry_iff]

/-- The USB device behind a listed port is the one behind the first enumerated port of that name. -/
theorem Lists.usb_eq (hp : p ∈ ports) : p.usb = (i.first? p.name).bind SerialPort.usb? :=
  usb_of_mem_entries (h.perm.mem_iff.1 hp)

end Lists

/-- The listing of a run loses, doubles and invents nothing. -/
theorem listing_complete (i : Inventory) :
    (i.listing.map Port.name).Nodup ∧
      (∀ name, (∃ p ∈ i.listing, p.name = name) ↔
        (∃ q ∈ i.serialPorts, q.name = name) ∨
          ∃ text : String, text.toUTF8 ∈ i.files ∧ MarksPort text ∧ name = "/dev/" ++ text) ∧
      ∀ p ∈ i.listing, p.usb = (i.first? p.name).bind SerialPort.usb? :=
  ⟨i.lists_listing.nodup_names, i.lists_listing.exists_name_iff, fun _ => i.lists_listing.usb_eq⟩

/-- Machines with the same entries have the same listings. -/
theorem lists_congr {j : Inventory} (h : i.entries.Perm j.entries) (ports : List Port) :
    i.Lists ports ↔ j.Lists ports := by
  constructor
  · rintro ⟨handedOut, hperm, harrange⟩
    exact ⟨handedOut, hperm.trans h, harrange⟩
  · rintro ⟨handedOut, hperm, harrange⟩
    exact ⟨handedOut, hperm.trans h.symm, harrange⟩

/-- **A listing loses, doubles and invents nothing.**  Whatever the enumeration says, the device
directory holds, and the order is in which the entries are handed out: the ports of a listing have
distinct names, namely those that are enumerated and those of the device files; and the USB device
behind a port is the one behind the first enumerated port of that name, so that a port has none if
this one is no USB port or if there is only a device file.  The listings stay the same when device
files are given in another order or repeatedly, and when a port is no longer enumerated that came
after another one of its name. -/
theorem listing_loses_nothing (i : Inventory) :
    (∀ ports, i.Lists ports →
        (ports.map Port.name).Nodup ∧
          (∀ name, (∃ p ∈ ports, p.name = name) ↔
            (∃ q ∈ i.serialPorts, q.name = name) ∨
              ∃ text : String, text.toUTF8 ∈ i.files ∧ MarksPort text ∧ name = "/dev/" ++ text) ∧
          ∀ p ∈ ports, p.usb = (i.first? p.name).bind SerialPort.usb?) ∧
      (∀ files, (∀ file, file ∈ files ↔ file ∈ i.files) →
        ∀ ports, { i with directory := some files }.Lists ports ↔ i.Lists ports) ∧
      ∀ before q after, i.enumeration = .ok (before ++ q :: after) →
        q.name ∈ before.map SerialPort.name →
        ∀ ports, { i with enumeration := .ok (before ++ after) }.Lists ports ↔ i.Lists ports := by
  refine ⟨?_, ?_, ?_⟩
  · intro ports hlists
    exact ⟨hlists.nodup_names, hlists.exists_name_iff, fun p => hlists.usb_eq⟩
  · intro files hfiles ports
    exact lists_congr (entries_perm_of_files hfiles) ports
  · intro before q after henumeration hbefore ports
    exact lists_congr (entries_perm_of_named_before henumeration hbefore) ports

/-- What is said of a port first counts, and a file whose name is no text is no port. -/
example :
    let stick : UsbDevice := ⟨0x0451, 0x16aa, none, some "CC2540"⟩
    let i : Inventory :=
      ⟨.ok [⟨"/dev/ttyACM0", .usb stick⟩, ⟨"/dev/ttyACM0", .unknown⟩],
        some ["ttyUSB1".toUTF8, "ttyACM0".toUTF8, ⟨#[0x74, 0xff]⟩]⟩
    i.listing = [⟨"/dev/ttyACM0", some stick⟩, .bare "/dev/ttyUSB1"] := by
  cbv

end Inventory

end VersionProbe
