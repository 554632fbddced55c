/-
# Version information as JSON

As JSON, version information is spread over lines: an opening brace, a line for each of the five
numbers in decimal, the vendor, and a closing brace.  A vendor without a name takes three lines,
with the number in the middle one.

* `pretty_toJson` : the text is made of these lines.
* `consistsOf_pretty` : each of them is on one line.
-/
import VersionProbe.Proofs.Lines

namespace VersionProbe

open Text

/-! ## The lines -/

/-- The lines on the vendor that a company number stands for. -/
def Vendor.jsonLines (id : UInt16) : List String :=
  if id = 0x000D then ["  \"vendor\": \"TexasInstruments\""]
  else if id = 0x0030 then ["  \"vendor\": \"StMicroelectronics\""]
  else ["  \"vendor\": \x7b", "    \"Unknown\": " ++ toString id.toNat, "  \x7d"]

namespace LocalVersion

variable (v : LocalVersion)

/-- The opening brace, and the lines on the five numbers. -/
def jsonNumberLines : List String :=
  ["\x7b",
    "  \"hci_version\": " ++ toString v.hciVersion.toNat ++ ",",
    "  \"hci_revision\": " ++ toString v.hciRevision.toNat ++ ",",
    "  \"lmp_version\": " ++ toString v.lmpVersion.toNat ++ ",",
    "  \"manufacturer_id\": " ++ toString v.manufacturer.toNat ++ ",",
    "  \"lmp_subversion\": " ++ toString v.lmpSubversion.toNat ++ ","]

/-- The lines of version information as JSON. -/
def jsonLines : List String :=
  v.jsonNumberLines ++ Vendor.jsonLines v.manufacturer ++ ["\x7d"]

end LocalVersion

/-! ## The text -/

/-- A vendor with a line end is made of the lines on it. -/
theorem Vendor.pretty_toJson (id : UInt16) :
    "  \"vendor\": " ++ Json.prettyAt 1 (ofId id).toJson ++ "\n"
      = String.join ((jsonLines id).map (· ++ "\n")) := by
  unfold ofId jsonLines
  split
  · rfl
  · split
    · rfl
    · have hvalue : Json.prettyAt 1 (unknown id).toJson
          = "\x7b" ++ "\n" ++ ("    " ++ ("\"Unknown\": " ++ toString id.toNat)) ++ "\n" ++ "  "
            ++ "\x7d" := rfl
      have hopening : "  \"vendor\": " ++ "\x7b" = "  \"vendor\": \x7b" := rfl
      have hname : "    " ++ "\"Unknown\": " = "    \"Unknown\": " := rfl
      have hclosing : "  " ++ "\x7d" = "  \x7d" := rfl
      simp only [hvalue, ← hopening, ← hname, ← hclosing, List.map_cons, List.map_nil,
        String.join_cons, String.join_nil, String.append_assoc, String.append_empty]

namespace LocalVersion

variable (v : LocalVersion)

/-- The numbers are followed by the vendor. -/
theorem pretty_toJson_eq :
    v.toJson.pretty
      = String.join (v.jsonNumberLines.map (· ++ "\n"))
        ++ ("  \"vendor\": " ++ Json.prettyAt 1 v.vendor.toJson ++ "\n") ++ "\x7d" := by
  have htext : v.toJson.pretty
      = "\x7b" ++ "\n" ++ ",\n".intercalate
          ["  " ++ ("\"hci_version\": " ++ toString v.hciVersion.toNat),
            "  " ++ ("\"hci_revision\": " ++ toString v.hciRevision.toNat),
            "  " ++ ("\"lmp_version\": " ++ toString v.lmpVersion.toNat),
            "  " ++ ("\"manufacturer_id\": " ++ toString v.manufacturer.toNat),
            "  " ++ ("\"lmp_subversion\": " ++ toString v.lmpSubversion.toNat),
            "  " ++ ("\"vendor\": " ++ Json.prettyAt 1 v.vendor.toJson)]
        ++ "\n" ++ "" ++ "\x7d" := rfl
  -- The text before each value is put together from its margin and its name.
  have hcomma : "," ++ "\n" = ",\n" := rfl
  have hhciVersion : "  " ++ "\"hci_version\": " = "  \"hci_version\": " := rfl
  have hhciRevision : "  " ++ "\"hci_revision\": " = "  \"hci_revision\": " := rfl
  have hlmpVersion : "  " ++ "\"lmp_version\": " = "  \"lmp_version\": " := rfl
  have hmanufacturer : "  " ++ "\"manufacturer_id\": " = "  \"manufacturer_id\": " := rfl
  have hlmpSubversion : "  " ++ "\"lmp_subversion\": " = "  \"lmp_subversion\": " := rfl
  have hvendor : "  " ++ "\"vendor\": " = "  \"vendor\": " := rfl
  simp only [htext, jsonNumberLines, ← hcomma, ← hhciVersion, ← hhciRevision, ← hlmpVersion,
    ← hmanufacturer, ← hlmpSubversion, ← hvendor, String.intercalate_cons_cons,
    String.intercalate_singleton, List.map_cons, List.map_nil, String.join_cons, String.join_nil,
    String.append_assoc, String.append_empty]

/-- Version information with a line end is made of its lines. -/
theorem pretty_toJson : v.toJson.pretty ++ "\n" = String.join (v.jsonLines.map (· ++ "\n")) := by
  rw [pretty_toJson_eq, vendor, Vendor.pretty_toJson, jsonLines, List.map_append, List.map_append,
    String.join_append, String.join_append, List.map_singleton, String.join_cons, String.join_nil,
    String.append_empty]
  exact String.append_assoc

/-- The lines on a vendor are on one line each. -/
theorem isLine_vendorLines (id : UInt16) : ∀ line ∈ Vendor.jsonLines id, IsLine line := by
  unfold Vendor.jsonLines
  split
  · decide
  · split
    · decide
    · have hnumber : IsLine ("    \"Unknown\": " ++ toString id.toNat) :=
        .append (by decide) (isLine_toString _)
      simp only [List.forall_mem_cons]
      exact ⟨by decide, hnumber, by decide, List.forall_mem_nil _⟩

/-- A name with a number after it, and a comma, are on one line. -/
theorem isLine_field {name : String} (h : IsLine name) (n : Nat) :
    IsLine (name ++ toString n ++ ",") :=
  (h.append (isLine_toString n)).append (by decide)

/-- Version information as JSON, with a line end, consists of its lines. -/
theorem consistsOf_pretty : ConsistsOf (v.toJson.pretty ++ "\n") v.jsonLines := by
  refine ⟨v.pretty_toJson, ?_⟩
  have hnumbers : ∀ line ∈ v.jsonNumberLines, IsLine line := by
    simp only [jsonNumberLines, List.forall_mem_cons]
    exact ⟨by decide, isLine_field (by decide) _, isLine_field (by decide) _,
      isLine_field (by decide) _, isLine_field (by decide) _, isLine_field (by decide) _,
      List.forall_mem_nil _⟩
  have hvendor := isLine_vendorLines v.manufacturer
  exact List.forall_mem_append.2 ⟨List.forall_mem_append.2 ⟨hnumbers, hvendor⟩, by decide⟩

end LocalVersion

end VersionProbe
