/-
# Ports that share a key

Ports are arranged by the last parts of their names, so two ports in different directories can be
tied, and ports that are tied stay in the order in which the entries are handed out.  The last parts
of the names are therefore listed in one order, but the ports themselves are only if no two of them
are tied.

* `SortKey.ofName_eq_iff` : ports are tied exactly if the last parts of their names are the same.
* `map_key_arrange`, `map_base_arrange` : the keys come in one order, and so do the last parts of
  the names.
* `listing_unmoved` : the listing of a run does not depend on what is said repeatedly.
* `listing_unique_iff` : a machine has one listing exactly if no two of its ports are tied.
-/
import VersionProbe.Proofs.Entries

namespace VersionProbe

/-! ## Keys -/

/-- Texts with the same bytes are the same. -/
theorem utf8_injective : Function.Injective utf8 := by
  intro s t h
  have hdata : s.toUTF8.data = t.toUTF8.data := Array.toList_inj.1 h
  exact String.toByteArray_inj.1 (ByteArray.ext hdata)

namespace SortKey

/-- A key holds the bytes of the last part of the name. -/
theorem base_ofName (name : String) :
    (ofName name).base = utf8 (String.ofList (baseName name.toList)) := by
  rw [ofName]
  split <;> rfl

/-- Two names have the same key exactly if their last parts are the same. -/
theorem ofName_eq_iff {a b : String} :
    ofName a = ofName b ↔ baseName a.toList = baseName b.toList := by
  constructor
  · intro h
    have hbytes := congrArg SortKey.base h
    rw [base_ofName, base_ofName] at hbytes
    exact String.ofList_injective (utf8_injective hbytes)
  · intro h
    rw [ofName, ofName, h]

end SortKey

namespace Port

/-- The last part of the name of a port. -/
def base (p : Port) : List Char :=
  baseName p.name.toList

/-- What a port is ordered by. -/
def key (p : Port) : SortKey :=
  .ofName p.name

/-- The key of a port holds the bytes of the last part of its name. -/
theorem base_key (p : Port) : p.key.base = utf8 (String.ofList p.base) :=
  SortKey.base_ofName p.name

/-- Ports that may come before each other have the same last part of the name. -/
theorem base_eq_of_le_of_le {p q : Port} (hpq : p.le q = true) (hqp : q.le p = true) :
    p.base = q.base :=
  SortKey.ofName_eq_iff.1 (SortKey.eq_of_le_of_le hpq hqp)

/-- Ports with the same last part of the name may come in either order. -/
theorem le_of_base_eq {p q : Port} (h : p.base = q.base) : p.le q = true := by
  rw [le, SortKey.ofName_eq_iff.2 h]
  exact (SortKey.le_total _ _).elim id id

/-- The order of the listing is transitive. -/
theorem le_trans (p q r : Port) (hpq : p.le q = true) (hqr : q.le r = true) : p.le r = true :=
  SortKey.le_trans hpq hqr

/-- Of two ports one may come before the other. -/
theorem le_total (p q : Port) : (p.le q || q.le p) = true :=
  Bool.or_eq_true_iff.2 (SortKey.le_total _ _)

/-- The order of the names is transitive. -/
theorem nameLe_trans (p q r : Port) (hpq : p.nameLe q = true) (hqr : q.nameLe r = true) :
    p.nameLe r = true :=
  bytesLe_trans hpq hqr

/-- Of two names one comes before the other. -/
theorem nameLe_total (p q : Port) : (p.nameLe q || q.nameLe p) = true :=
  Bool.or_eq_true_iff.2 (bytesLe_total _ _)

/-- Names that come before each other are the same. -/
theorem name_eq_of_nameLe_of_nameLe {p q : Port} (hpq : p.nameLe q = true)
    (hqp : q.nameLe p = true) : p.name = q.name :=
  utf8_injective (eq_of_bytesLe_of_bytesLe hpq hqp)

end Port

/-! ## Arranging -/

/-- Arranged ports are in the order of the listing. -/
theorem pairwise_arrange (ports : List Port) :
    (arrange ports).Pairwise fun p q => p.le q = true :=
  List.pairwise_mergeSort Port.le_trans Port.le_total ports

/-- Whatever order ports are handed out in, their keys are arranged in one order. -/
theorem map_key_arrange {xs ys : List Port} (h : xs.Perm ys) :
    (arrange xs).map Port.key = (arrange ys).map Port.key := by
  have hsorted : ∀ ports : List Port,
      ((arrange ports).map Port.key).Pairwise fun a b => a.le b = true :=
    fun ports => List.pairwise_map.2 (pairwise_arrange ports)
  have hperm : ((arrange xs).map Port.key).Perm ((arrange ys).map Port.key) :=
    ((arrange_perm xs).trans (h.trans (arrange_perm ys).symm)).map Port.key
  exact hperm.eq_of_pairwise (fun _ _ _ _ hab hba => SortKey.eq_of_le_of_le hab hba)
    (hsorted xs) (hsorted ys)

/-- So the last parts of their names are arranged in one order. -/
theorem map_base_arrange {xs ys : List Port} (h : xs.Perm ys) :
    (arrange xs).map Port.base = (arrange ys).map Port.base := by
  have hbytes := congrArg (List.map SortKey.base) (map_key_arrange h)
  simp only [List.map_map, Function.comp_def, Port.base_key] at hbytes
  have hinjective : Function.Injective fun cs => utf8 (String.ofList cs) :=
    fun _ _ hcs => String.ofList_injective (utf8_injective hcs)
  refine List.map_injective_iff.2 hinjective ?_
  simpa only [List.map_map, Function.comp_def] using hbytes

/-- Where no two ports are tied, they are arranged in one order, whatever order they are handed out
in. -/
theorem arrange_congr {xs ys : List Port} (h : xs.Perm ys)
    (huntied : ∀ p ∈ xs, ∀ q ∈ xs, p.base = q.base → p = q) : arrange xs = arrange ys := by
  refine List.Perm.eq_of_pairwise ?_ (pairwise_arrange xs) (pairwise_arrange ys)
    ((arrange_perm xs).trans (h.trans (arrange_perm ys).symm))
  intro p q hp hq hpq hqp
  have hp' : p ∈ xs := (arrange_perm xs).mem_iff.1 hp
  have hq' : q ∈ xs := h.mem_iff.2 ((arrange_perm ys).mem_iff.1 hq)
  exact huntied p hp' q hq' (Port.base_eq_of_le_of_le hpq hqp)

/-- Two ports that are tied stay in the order in which they are handed out. -/
theorem sublist_arrange_of_tied {p q : Port} {ports : List Port} (h : p.base = q.base)
    (hsublist : [p, q].Sublist ports) : [p, q].Sublist (arrange ports) :=
  List.pair_sublist_mergeSort Port.le_trans Port.le_total (Port.le_of_base_eq h) hsublist

/-- Of two different elements of a list without repetitions only one comes before the other. -/
theorem not_both_sublists {α : Type} {p q : α} {l : List α} (hnodup : l.Nodup) (hne : p ≠ q)
    (hpq : [p, q].Sublist l) : ¬ [q, p].Sublist l := by
  induction l with
  | nil => cases hpq
  | cons first rest ih =>
    obtain ⟨hfirst, hrest⟩ := List.nodup_cons.1 hnodup
    intro hqp
    rcases List.sublist_cons_iff.1 hpq with hlater | ⟨_, hcons, hq⟩
    · rcases List.sublist_cons_iff.1 hqp with hlater' | ⟨_, hcons', hp⟩
      · exact ih hrest hlater hlater'
      · obtain ⟨rfl, rfl⟩ := List.cons.inj hcons'
        exact hfirst (hlater.subset (List.mem_cons_of_mem _ List.mem_cons_self))
    · obtain ⟨rfl, rfl⟩ := List.cons.inj hcons
      rcases List.sublist_cons_iff.1 hqp with hlater' | ⟨_, hcons', hp⟩
      · exact hfirst (hlater'.subset (List.mem_cons_of_mem _ List.mem_cons_self))
      · obtain ⟨hsame, -⟩ := List.cons.inj hcons'
        exact hne hsame.symm

/-! ## Listings -/

namespace Inventory

/-- Machines with the same entries have the same listing in a run, which hands them out by their
names. -/
theorem listing_congr {i j : Inventory} (h : i.entries.Perm j.entries) : i.listing = j.listing := by
  refine congrArg arrange (List.Perm.eq_of_pairwise ?_
    (List.pairwise_mergeSort Port.nameLe_trans Port.nameLe_total i.entries)
    (List.pairwise_mergeSort Port.nameLe_trans Port.nameLe_total j.entries)
    ((List.mergeSort_perm _ _).trans (h.trans (List.mergeSort_perm _ _).symm)))
  intro p q hp hq hpq hqp
  have hp' : p ∈ i.entries := List.mem_mergeSort.1 hp
  have hq' : q ∈ i.entries := h.mem_iff.2 (List.mem_mergeSort.1 hq)
  exact List.inj_on_of_nodup_map (nodup_names_entries i) hp' hq'
    (Port.name_eq_of_nameLe_of_nameLe hpq hqp)

/-- The listing of a run stays the same when device files are given in another order or repeatedly,
and when a port is no longer enumerated that came after another one of its name. -/
theorem listing_unmoved (i : Inventory) :
    (∀ files, (∀ file, file ∈ files ↔ file ∈ i.files) →
        ({ i with directory := some files } : Inventory).listing = i.listing) ∧
      ∀ before q after, i.enumeration = .ok (before ++ q :: after) →
        q.name ∈ before.map SerialPort.name →
        ({ i with enumeration := .ok (before ++ after) } : Inventory).listing = i.listing := by
  constructor
  · intro files hfiles
    exact listing_congr (entries_perm_of_files hfiles)
  · intro before q after henumeration hbefore
    exact listing_congr (entries_perm_of_named_before henumeration hbefore)

/-- Two tied entries can be listed in either order. -/
theorem exists_lists_sublist {i : Inventory} {p q : Port} (hp : p ∈ i.entries)
    (hq : q ∈ i.entries) (hne : p ≠ q) (htied : p.base = q.base) :
    ∃ ports, i.Lists ports ∧ [p, q].Sublist ports := by
  have hlater : q ∈ i.entries.erase p := (List.mem_erase_of_ne (Ne.symm hne)).2 hq
  have hperm : (p :: q :: (i.entries.erase p).erase q).Perm i.entries :=
    ((List.perm_cons_erase hlater).symm.cons p).trans (List.perm_cons_erase hp).symm
  refine ⟨_, ⟨_, hperm, rfl⟩, sublist_arrange_of_tied htied ?_⟩
  exact ((List.nil_sublist _).cons_cons q).cons_cons p

/-- **When a machine has one listing.**  Whatever order the entries of a machine are handed out in,
the last parts of the names are listed in the same order.  The ports are listed in the same order
for every order in which the entries may be handed out exactly if no two entries have the same last
part of the name. -/
theorem listing_unique_iff (i : Inventory) :
    (∀ ports ports', i.Lists ports → i.Lists ports' →
        ports.map Port.base = ports'.map Port.base) ∧
      ((∀ ports ports', i.Lists ports → i.Lists ports' → ports = ports') ↔
        ∀ p ∈ i.entries, ∀ q ∈ i.entries, p.base = q.base → p = q) := by
  refine ⟨?_, ?_, ?_⟩
  · rintro ports ports' ⟨xs, hxs, rfl⟩ ⟨ys, hys, rfl⟩
    exact map_base_arrange (hxs.trans hys.symm)
  · intro hunique p hp q hq htied
    by_contra hne
    obtain ⟨ports, hports, hpq⟩ := exists_lists_sublist hp hq hne htied
    obtain ⟨ports', hports', hqp⟩ := exists_lists_sublist hq hp (Ne.symm hne) htied.symm
    -- In the one listing both ports would come before each other.
    rw [← hunique ports ports' hports hports'] at hqp
    have hnodup : ports.Nodup :=
      hports.perm.nodup_iff.2 ((nodup_names_entries i).of_map Port.name)
    exact not_both_sublists hnodup hne hpq hqp
  · rintro huntied ports ports' ⟨xs, hxs, rfl⟩ ⟨ys, hys, rfl⟩
    refine arrange_congr (hxs.trans hys.symm) fun p hp q hq => ?_
    exact huntied p (hxs.mem_iff.1 hp) q (hxs.mem_iff.1 hq)

/-- A machine with two ports of the same number, in different directories. -/
def twins : Inventory :=
  ⟨.ok [⟨"/dev/usb/tts/0", .unknown⟩, ⟨"/dev/tts/0", .unknown⟩], none⟩

/-- Both orders of the two ports are listings of the machine. -/
theorem listings_twins :
    twins.Lists [.bare "/dev/usb/tts/0", .bare "/dev/tts/0"] ∧
      twins.Lists [.bare "/dev/tts/0", .bare "/dev/usb/tts/0"] ∧
      ¬ ∀ ports ports', twins.Lists ports → twins.Lists ports' → ports = ports' := by
  have hentries : twins.entries = [.bare "/dev/usb/tts/0", .bare "/dev/tts/0"] := by decide
  have hfirst : twins.Lists [.bare "/dev/usb/tts/0", .bare "/dev/tts/0"] :=
    ⟨_, List.Perm.of_eq hentries.symm, by cbv⟩
  have hsecond : twins.Lists [.bare "/dev/tts/0", .bare "/dev/usb/tts/0"] := by
    refine ⟨[.bare "/dev/tts/0", .bare "/dev/usb/tts/0"], ?_, by cbv⟩
    rw [hentries]
    exact List.Perm.swap _ _ _
  refine ⟨hfirst, hsecond, fun hunique => ?_⟩
  exact absurd (hunique _ _ hfirst hsecond) (by decide)

end Inventory

end VersionProbe
