/-
# Members of a dictionary

A well-formed dictionary is known by its vendors, whatever was done to make it
(`eq_of_mem_iff`).  So it is enough to know which vendors there are after a vendor is put, updated
or declared and after a dictionary is merged.
-/
import Mathlib.Data.List.Perm.Basic
import Radius.Proofs.Dictionary.Table

namespace Radius

open Text

/-! ### Entries with keys -/

section Entries

variable {α σ : Type} {l l' : List α} {a : α} {s : σ}

/-- Entries in the order of their numbers are known by which there are. -/
lemma eq_of_mem_iff_of_ascending {number : α → UInt32}
    (hl : (l.map number).Pairwise (· < ·)) (hl' : (l'.map number).Pairwise (· < ·))
    (h : ∀ a, a ∈ l ↔ a ∈ l') : l = l' := by
  have horder : l.Pairwise fun a b => number a < number b := List.pairwise_map.1 hl
  have horder' : l'.Pairwise fun a b => number a < number b := List.pairwise_map.1 hl'
  have hnodup : ∀ {k : List α}, k.Pairwise (fun a b => number a < number b) → k.Nodup := by
    intro k hk
    refine hk.imp fun hab heq => ?_
    subst heq
    exact UInt32.lt_irrefl _ hab
  have hperm : l.Perm l' := (List.perm_ext_iff_of_nodup (hnodup horder) (hnodup horder')).2 h
  exact hperm.eq_of_pairwise (fun _ _ _ _ hab hba => absurd hba (UInt32.lt_asymm hab)) horder
    horder'

/-- Entries are put one after the other, each in the place of those that are not apart from it.
Where they are apart from each other, all of them stay. -/
lemma mem_foldl_iff (Inv : σ → Prop) (Mem : α → σ → Prop) {Apart : α → α → Prop} {put : σ → α → σ}
    (hkeeps : ∀ s, Inv s → ∀ b ∈ l, Inv (put s b))
    (hput : ∀ s, Inv s → ∀ b ∈ l, ∀ a, Mem a (put s b) ↔ a = b ∨ Mem a s ∧ Apart a b)
    (hapart : l.Pairwise fun a b => Apart a b) (hs : Inv s) :
    Mem a (l.foldl put s) ↔ a ∈ l ∨ Mem a s ∧ ∀ b ∈ l, Apart a b := by
  induction l generalizing s with
  | nil => simp
  | cons b rest ih =>
      rw [List.pairwise_cons] at hapart
      have hrest := ih (fun s hs c hc => hkeeps s hs c (List.mem_cons_of_mem b hc))
        (fun s hs c hc => hput s hs c (List.mem_cons_of_mem b hc)) hapart.2
        (hkeeps s hs b List.mem_cons_self)
      -- a later entry does not take the place of an earlier one
      have hkept : a = b → ∀ c ∈ rest, Apart a c := by
        rintro rfl c hc
        exact hapart.1 c hc
      rw [List.foldl_cons, hrest, hput s hs b List.mem_cons_self, List.mem_cons,
        List.forall_mem_cons]
      tauto

end Entries

namespace Dictionary

variable {d d' other : Dictionary} {v w : Vendor}

/-- Dictionaries with the same vendors are the same. -/
lemma eq_of_mem_iff (hd : d.WellFormed) (hd' : d'.WellFormed)
    (h : ∀ v, v ∈ d.vendors ↔ v ∈ d'.vendors) : d = d' := by
  have hvendors : d.vendors = d'.vendors :=
    eq_of_mem_iff_of_ascending hd.ids_ascending hd'.ids_ascending h
  cases d
  cases d'
  exact congrArg Dictionary.mk hvendors

lemma mem_vendors_put :
    w ∈ (d.put v).vendors ↔
      w = v ∨ w ∈ d.vendors ∧ w.id ≠ v.id ∧ fold w.name ≠ fold v.name := by
  rw [put, mem_place, List.mem_filter]
  simp [sameName]

/-- A vendor of a merged dictionary comes from above, or from below where nothing above has its
number or its name. -/
lemma mem_vendors_merge (hother : other.WellFormed) :
    w ∈ (d.merge other).vendors ↔
      w ∈ other.vendors ∨
        w ∈ d.vendors ∧ ∀ v ∈ other.vendors, w.id ≠ v.id ∧ fold w.name ≠ fold v.name := by
  have hids : other.vendors.Pairwise fun v w => v.id ≠ w.id := List.pairwise_map.1 hother.ids_nodup
  have hnames : other.vendors.Pairwise fun v w => fold v.name ≠ fold w.name :=
    List.pairwise_map.1 hother.names_nodup
  exact mem_foldl_iff (fun _ => True) (fun w (d : Dictionary) => w ∈ d.vendors)
    (fun _ _ _ _ => trivial) (fun _ _ _ _ _ => mem_vendors_put) (hids.and hnames) trivial

/-- A number leads to the vendor of the upper dictionary that has it. -/
lemma vendor?_merge (hd : d.WellFormed) (hother : other.WellFormed) {id : UInt32}
    (h : other.vendor? id = some v) : (d.merge other).vendor? id = some v := by
  obtain ⟨hv, hid⟩ := (vendor?_eq_some_iff hother).1 h
  exact (vendor?_eq_some_iff (hd.merge hother)).2 ⟨(mem_vendors_merge hother).2 (.inl hv), hid⟩

lemma vendorNamed?_merge (hd : d.WellFormed) (hother : other.WellFormed) {name : String}
    (h : other.vendorNamed? name = some v) : (d.merge other).vendorNamed? name = some v := by
  obtain ⟨hv, hname⟩ := (vendorNamed?_eq_some_iff hother).1 h
  exact (vendorNamed?_eq_some_iff (hd.merge hother)).2
    ⟨(mem_vendors_merge hother).2 (.inl hv), hname⟩

/-- A number that the upper dictionary does not have leads to no vendor but that of the lower
one. -/
lemma vendor?_of_merge (hd : d.WellFormed) (hother : other.WellFormed) {id : UInt32}
    (hfree : other.vendor? id = none) (h : (d.merge other).vendor? id = some v) :
    d.vendor? id = some v := by
  obtain ⟨hv, hid⟩ := (vendor?_eq_some_iff (hd.merge hother)).1 h
  rcases (mem_vendors_merge hother).1 hv with hv | ⟨hv, -⟩
  · exact absurd (List.mem_map.2 ⟨v, hv, hid⟩) (vendor?_eq_none_iff.1 hfree)
  · exact (vendor?_eq_some_iff hd).2 ⟨hv, hid⟩

lemma mem_vendors_update (hv : v.id ∈ d.vendors.map (·.id)) :
    w ∈ (d.update v).vendors ↔ w = v ∨ w ∈ d.vendors ∧ w.id ≠ v.id := by
  rw [update, List.mem_map]
  constructor
  · rintro ⟨u, hu, rfl⟩
    split_ifs with hid
    · exact Or.inl rfl
    · exact Or.inr ⟨hu, hid⟩
  · rintro (rfl | ⟨hw, hid⟩)
    · obtain ⟨u, hu, hid⟩ := List.mem_map.1 hv
      exact ⟨u, hu, if_pos hid⟩
    · exact ⟨w, hw, if_neg hid⟩

end Dictionary

end Radius
