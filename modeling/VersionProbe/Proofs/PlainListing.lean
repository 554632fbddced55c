/-
# The plain listing

The plain listing of ports is meant to have one line for each port.  What is shown of a port are its
name and the product that a device names, as they are, and these may be any text.  So the listing has
a line for each port exactly if there is no line end in any of them; every line end in a name or in a
product makes one line more, and a device can add lines to the listing that look like ports.

* `Port.isLine_display_iff` : when a port is shown on one line.
* `length_lines_portLines` : how many lines there are.
* `Run.plain_listing_iff` : what follows for a run.
-/
import Mathlib
import VersionProbe.Proofs.Course
import VersionProbe.Proofs.Lines

namespace VersionProbe

open Text

/-! ## Ports -/

namespace Port

/-- Whether the texts that are known of a port are on one line each: its name, and the product of the
USB device if there is one. -/
def OnOneLine (p : Port) : Prop :=
  IsLine p.name ∧ ∀ product, p.product = some product → IsLine product

variable (p : Port)

/-- The numbers of a USB device are on one line. -/
theorem isLine_idText : IsLine p.idText := by
  unfold idText
  cases p.usb with
  | none => decide
  | some device =>
    have hvendor : IsLine (" [" ++ Hex.word device.vendorId) := .append (by decide) (Hex.isLine_word _)
    exact ((hvendor.append (by decide)).append (Hex.isLine_word _)).append (by decide)

/-- A product is shown on one line exactly if it is on one line. -/
theorem isLine_productText_iff :
    IsLine p.productText ↔ ∀ product, p.product = some product → IsLine product := by
  unfold productText
  cases p.product with
  | none =>
    refine iff_of_true (by decide) ?_
    intro product hproduct
    cases hproduct
  | some text =>
    have htext : IsLine (" " ++ text) ↔ IsLine text := by
      rw [isLine_append_iff, and_iff_right (by decide)]
    rw [htext]
    constructor
    · intro hline product hproduct
      rwa [← Option.some.inj hproduct]
    · intro h
      exact h text rfl

/-- A port is shown on one line exactly if the texts that are known of it are on one line each. -/
theorem isLine_display_iff : IsLine p.display ↔ p.OnOneLine := by
  rw [display, isLine_append_iff, isLine_append_iff, isLine_productText_iff, OnOneLine]
  constructor
  · rintro ⟨⟨hname, -⟩, hproduct⟩
    exact ⟨hname, hproduct⟩
  · rintro ⟨hname, hproduct⟩
    exact ⟨⟨hname, p.isLine_idText⟩, hproduct⟩

/-- What is shown of a port begins with its name. -/
theorem name_prefix_display : p.name.toList <+: p.display.toList := by
  rw [display, String.append_assoc, String.toList_append]
  exact List.prefix_append _ _

end Port

/-! ## Lines and ports -/

/-- The listing of a first port and the others. -/
theorem toList_portLines_cons (p : Port) (ports : List Port) :
    (portLines (p :: ports)).toList = p.display.toList ++ '\n' :: (portLines ports).toList := by
  rw [portLines, List.map_cons, String.join_cons, String.toList_append, String.toList_append,
    List.append_assoc]
  rfl

/-- There is a line for each port, and one more for each line end in what is shown of the ports. -/
theorem length_lines_portLines (ports : List Port) :
    (lines (portLines ports)).length
      = ports.length + (ports.flatMap fun p => p.display.toList).count '\n' := by
  unfold lines
  rw [List.length_map]
  induction ports with
  | nil => rfl
  | cons p ports ih =>
    rw [toList_portLines_cons, length_linesOf_append_end, ih, List.length_cons, List.flatMap_cons,
      List.count_append]
    omega

/-- There are as many lines as ports exactly if the texts that are known of the ports are on one line
each. -/
theorem length_lines_portLines_iff (ports : List Port) :
    (lines (portLines ports)).length = ports.length ↔ ∀ p ∈ ports, p.OnOneLine := by
  have hcount : (lines (portLines ports)).length = ports.length ↔
      (ports.flatMap fun p => p.display.toList).count '\n' = 0 := by
    rw [length_lines_portLines]
    omega
  rw [hcount, List.count_eq_zero]
  constructor
  · intro hnone p hp
    rw [← p.isLine_display_iff]
    exact fun hend => hnone (List.mem_flatMap.2 ⟨p, hp, hend⟩)
  · intro hports hend
    obtain ⟨p, hp, hmem⟩ := List.mem_flatMap.1 hend
    exact p.isLine_display_iff.2 (hports p hp) hmem

/-- Where every port is shown on one line, the lines are the ports as they are shown. -/
theorem lines_portLines {ports : List Port} (h : ∀ p ∈ ports, IsLine p.display) :
    lines (portLines ports) = ports.map Port.display := by
  unfold lines
  induction ports with
  | nil => rfl
  | cons p ports ih =>
    obtain ⟨hp, hports⟩ := List.forall_mem_cons.1 h
    rw [toList_portLines_cons, linesOf_append_end hp, List.map_cons, ih hports, List.map_cons,
      String.ofList_toList]

/-- `LinePerPort ports text` says that a text has as many lines as there are ports, and that the line
at each place shows the port at this place, beginning with its name. -/
def LinePerPort (ports : List Port) (text : String) : Prop :=
  (lines text).length = ports.length ∧
    ∀ (k : Nat) (line : String), (lines text)[k]? = some line →
      ∃ p : Port, ports[k]? = some p ∧ line = p.display ∧ p.name.toList <+: line.toList

/-- A listing has a line for each port exactly if the texts that are known of the ports are on one
line each. -/
theorem linePerPort_iff (ports : List Port) :
    LinePerPort ports (portLines ports) ↔ ∀ p ∈ ports, p.OnOneLine := by
  constructor
  · rintro ⟨hlength, -⟩
    exact (length_lines_portLines_iff ports).1 hlength
  · intro hports
    refine ⟨(length_lines_portLines_iff ports).2 hports, fun k line hline => ?_⟩
    have hdisplay : ∀ p ∈ ports, IsLine p.display := fun p hp => p.isLine_display_iff.2 (hports p hp)
    rw [lines_portLines hdisplay, List.getElem?_map] at hline
    obtain ⟨p, hp, rfl⟩ := Option.map_eq_some_iff.1 hline
    exact ⟨p, hp, rfl, p.name_prefix_display⟩

/-! ## Runs -/

namespace Run

/-- A run that is asked for the plain listing prints it. -/
theorem stdout_list (inventory : Inventory) :
    (list inventory false).stdout = portLines inventory.listing := by
  have hquiet : Trace.stdout (.enumeration :: inventory.log.map .log) = "" := by
    unfold Inventory.log
    cases inventory.enumeration <;> rfl
  show Trace.stdout (.enumeration :: inventory.log.map .log ++ [.print (portLines inventory.listing)])
    = _
  rw [Trace.stdout_append, hquiet, String.empty_append]
  show String.join [portLines inventory.listing] = _
  rw [String.join_cons, String.join_nil, String.append_empty]

/-- **When the plain listing has a line for each port.**  A run that is given the option to list prints
the plain listing of the ports of the machine.  A plain listing, of whatever ports and in whatever
order, has a line for each port, with what is shown of the port and its name in front, exactly if
there is no line end in the name of a port or in the product that its device names; and otherwise it
does not even have as many lines as there are ports. -/
theorem plain_listing_iff (world : World) :
    (ofArguments ["--list"] world).stdout = portLines world.inventory.listing ∧
      ∀ ports : List Port,
        (LinePerPort ports (portLines ports) ↔ ∀ p ∈ ports, p.OnOneLine) ∧
          ((lines (portLines ports)).length = ports.length ↔ ∀ p ∈ ports, p.OnOneLine) := by
  refine ⟨stdout_list world.inventory, ?_⟩
  intro ports
  exact ⟨linePerPort_iff ports, length_lines_portLines_iff ports⟩

/-- A machine with one port, whose device names a product over two lines. -/
def misleading : World :=
  ⟨.error ⟨.noDevice, "No such device"⟩,
    ⟨.ok [⟨"/dev/ttyACM0", .usb ⟨0x0451, 0x16AA, none, some "CC2540\n/dev/ttyACM9"⟩⟩], none⟩⟩

/-- The second line of the product is listed like a port that is not there. -/
theorem lines_misleading :
    misleading.inventory.listing.length = 1 ∧
      lines (ofArguments ["--list"] misleading).stdout
        = ["/dev/ttyACM0 [0451:16aa] CC2540", "/dev/ttyACM9"] ∧
      ¬ ∀ world : World,
        LinePerPort world.inventory.listing (ofArguments ["--list"] world).stdout := by
  have hports : misleading.inventory.listing
      = [⟨"/dev/ttyACM0", some ⟨0x0451, 0x16AA, none, some "CC2540\n/dev/ttyACM9"⟩⟩] := by
    cbv
  have hlines : lines (ofArguments ["--list"] misleading).stdout
      = ["/dev/ttyACM0 [0451:16aa] CC2540", "/dev/ttyACM9"] := by
    show lines (list misleading.inventory false).stdout = _
    rw [stdout_list, hports]
    cbv
  refine ⟨by rw [hports]; rfl, hlines, fun hall => ?_⟩
  have hlength := (hall misleading).1
  rw [hlines, hports] at hlength
  cases hlength

end Run

end VersionProbe
