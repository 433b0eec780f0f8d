/-
# Tables with indexes

An index of a table holds for every key the position of the one definition that has it, and holds
nothing else (`Indexes`).  Adding a definition and changing one in its place keep both indexes of a
table so; and then an index finds what a search finds (`attribute?_vendor`, `attributeOf?_vendor`).
-/
import Mathlib.Data.List.Nodup
import Mathlib.Tactic.SplitIfs
import Radius.Proofs.Dictionary.Table
import Radius.Registry

namespace Radius

open Text

lemma Text.nameKey_inj {a b : String} : nameKey a = nameKey b ↔ fold a = fold b :=
  String.ofList_inj

/-! ### Indexes of positions -/

section Indexes

variable {α κ : Type} [BEq κ] [Hashable κ]

/-- An index holds the positions of entries by their keys, and nothing else. -/
def Indexes (index : Std.HashMap κ Nat) (key : α → κ) (entries : Array α) : Prop :=
  ∀ k i, index[k]? = some i ↔ ∃ a, entries[i]? = some a ∧ key a = k

namespace Indexes

variable {index : Std.HashMap κ Nat} {key : α → κ} {entries : Array α} {a b : α} {k : κ} {i j : Nat}

lemma empty : Indexes (∅ : Std.HashMap κ Nat) key #[] := by
  intro k i
  simp

lemma lt_size (h : Indexes index key entries) (hi : index[k]? = some i) : i < entries.size := by
  obtain ⟨a, ha, -⟩ := (h k i).1 hi
  exact (Array.getElem?_eq_some_iff.1 ha).1

/-- Entries at two positions have two keys. -/
lemma eq_of_key_eq (h : Indexes index key entries) (hi : entries[i]? = some a)
    (hj : entries[j]? = some b) (hkey : key a = key b) : i = j := by
  have hfirst : index[key b]? = some i := (h _ _).2 ⟨a, hi, hkey⟩
  have hsecond : index[key b]? = some j := (h _ _).2 ⟨b, hj, rfl⟩
  exact Option.some.inj (hfirst.symm.trans hsecond)

lemma nodup (h : Indexes index key entries) : (entries.toList.map key).Nodup := by
  rw [List.nodup_iff_getElem?_ne_getElem?]
  intro i j hij hj hsame
  rw [List.length_map] at hj
  have hi : i < entries.toList.length := Nat.lt_trans hij hj
  rw [List.getElem?_map, List.getElem?_map, List.getElem?_eq_getElem hi,
    List.getElem?_eq_getElem hj, Option.map_some, Option.map_some, Option.some.injEq] at hsame
  exact absurd (h.eq_of_key_eq (by simp) (by simp) hsame) (Nat.ne_of_lt hij)

/-- Through the index a key finds the entry that has it. -/
lemma bind_getElem?_eq_some_iff (h : Indexes index key entries) :
    (index[k]?.bind fun i => entries[i]?) = some a ↔ a ∈ entries.toList ∧ key a = k := by
  rw [Option.bind_eq_some_iff, Array.mem_toList_iff, Array.mem_iff_getElem?]
  constructor
  · rintro ⟨i, hi, ha⟩
    obtain ⟨b, hb, hkey⟩ := (h k i).1 hi
    obtain rfl := Option.some.inj (hb.symm.trans ha)
    exact ⟨⟨i, ha⟩, hkey⟩
  · rintro ⟨⟨i, ha⟩, hkey⟩
    exact ⟨i, (h k i).2 ⟨a, ha, hkey⟩, ha⟩

/-- Through the index a key finds what a search for it finds. -/
lemma bind_getElem?_eq_find? (h : Indexes index key entries) {p : α → Bool}
    (hp : ∀ a, p a = true ↔ key a = k) :
    (index[k]?.bind fun i => entries[i]?) = entries.toList.find? p := by
  apply Option.ext
  intro a
  rw [h.bind_getElem?_eq_some_iff, find?_eq_some_iff_of_nodup hp h.nodup]

variable [LawfulBEq κ]

lemma contains_iff (h : Indexes index key entries) :
    index.contains k = true ↔ k ∈ entries.toList.map key := by
  rw [Std.HashMap.contains_eq_isSome_getElem?, Option.isSome_iff_exists, List.mem_map]
  constructor
  · rintro ⟨i, hi⟩
    obtain ⟨a, ha, hkey⟩ := (h k i).1 hi
    exact ⟨a, Array.mem_toList_iff.2 (Array.mem_of_getElem? ha), hkey⟩
  · rintro ⟨a, ha, hkey⟩
    obtain ⟨i, hi⟩ := Array.mem_iff_getElem?.1 (Array.mem_toList_iff.1 ha)
    exact ⟨i, (h k i).2 ⟨a, hi, hkey⟩⟩

/-- An index holds the keys that a search would find. -/
lemma contains_eq_isSome_find? (h : Indexes index key entries) {p : α → Bool}
    (hp : ∀ a, p a = true ↔ key a = k) :
    index.contains k = (entries.toList.find? p).isSome := by
  rw [Bool.eq_iff_iff, h.contains_iff, Option.isSome_iff_ne_none, ne_eq,
    find?_eq_none_iff_of_key hp, Decidable.not_not]

/-- An entry with a new key is added at the end of the entries and to the index. -/
lemma push (h : Indexes index key entries) (hnew : key a ∉ entries.toList.map key) :
    Indexes (index.insert (key a) entries.size) key (entries.push a) := by
  intro k i
  rw [Std.HashMap.getElem?_insert, Array.getElem?_push]
  by_cases hk : key a = k
  · subst hk
    rw [if_pos (beq_self_eq_true _), Option.some.injEq]
    constructor
    · rintro rfl
      exact ⟨a, if_pos rfl, rfl⟩
    · rintro ⟨b, hb, hkey⟩
      by_contra hi
      -- an entry before the new one would have its key
      rw [if_neg (Ne.symm hi)] at hb
      refine hnew (List.mem_map.2 ⟨b, ?_, hkey⟩)
      exact Array.mem_toList_iff.2 (Array.mem_of_getElem? hb)
  · rw [if_neg (by simpa using hk), h k i]
    constructor
    · rintro ⟨b, hb, hkey⟩
      have hi : i < entries.size := (Array.getElem?_eq_some_iff.1 hb).1
      exact ⟨b, by rwa [if_neg (Nat.ne_of_lt hi)], hkey⟩
    · rintro ⟨b, hb, hkey⟩
      split_ifs at hb with hi
      · exact absurd (Option.some.inj hb ▸ hkey) hk
      · exact ⟨b, hb, hkey⟩

omit [LawfulBEq κ] in
/-- An entry that keeps its key can change in its place. -/
lemma modify (h : Indexes index key entries) {change : α → α}
    (hkey : ∀ a, key (change a) = key a) : Indexes index key (entries.modify j change) := by
  intro k i
  rw [h k i, Array.getElem?_modify]
  split_ifs with hij
  · subst hij
    simp only [Option.map_eq_some_iff]
    constructor
    · rintro ⟨a, ha, hk⟩
      exact ⟨change a, ⟨a, ha, rfl⟩, (hkey a).trans hk⟩
    · rintro ⟨_, ⟨a, ha, rfl⟩, hk⟩
      exact ⟨a, ha, (hkey a).symm.trans hk⟩
  · exact Iff.rfl

end Indexes

end Indexes

/-! ### Tables -/

/-- Definitions that cannot be in one table: they have one name, in any letter case, or one code. -/
def Definition.Clashes (d e : Definition) : Prop :=
  fold d.name = fold e.name ∨ d.code = e.code

namespace Table

/-- A table whose indexes are in step with its definitions, whatever these are. -/
structure Indexed (t : Table) : Prop where
  byName : Indexes t.byName (fun d => nameKey d.name) t.attributes
  byCode : Indexes t.byCode Definition.code t.attributes

/-- A table of well-formed definitions whose indexes are in step with them. -/
structure Coherent (t : Table) : Prop where
  byName : Indexes t.byName (fun d => nameKey d.name) t.attributes
  byCode : Indexes t.byCode Definition.code t.attributes
  definitions : ∀ d ∈ t.attributes, d.WellFormed

variable {t t' : Table} {d : Definition}

lemma indexed_nil (name : String) (id : UInt32) : Indexed { name, id } where
  byName := .empty
  byCode := .empty

lemma Coherent.indexed (ht : t.Coherent) : t.Indexed :=
  ⟨ht.byName, ht.byCode⟩

/-- A definition is handed back if its name or its code is taken, and otherwise put at the end of
the definitions and into both indexes. -/
lemma Indexed.insert_cases (ht : t.Indexed) (d : Definition) :
    (∃ e ∈ t.attributes.toList, e.Clashes d) ∧ t.insert d = .error d ∨
      (¬ ∃ e ∈ t.attributes.toList, e.Clashes d) ∧
        ∃ t', t.insert d = .ok t' ∧ t'.Indexed ∧ t'.attributes = t.attributes.push d := by
  have htaken : t.byName.contains (nameKey d.name) ∨ t.byCode.contains d.code ↔
      ∃ e ∈ t.attributes.toList, e.Clashes d := by
    rw [ht.byName.contains_iff, ht.byCode.contains_iff, List.mem_map, List.mem_map, ← exists_or]
    simp only [nameKey_inj, ← and_or_left, Definition.Clashes]
  rw [insert, ← htaken]
  by_cases h : t.byName.contains (nameKey d.name) ∨ t.byCode.contains d.code
  · exact .inl ⟨h, if_pos h⟩
  · have hnew := not_or.1 h
    rw [ht.byName.contains_iff, ht.byCode.contains_iff] at hnew
    exact .inr ⟨h, _, if_neg h, ⟨ht.byName.push hnew.1, ht.byCode.push hnew.2⟩, rfl⟩

lemma coherent_nil (name : String) (id : UInt32) : Coherent { name, id } where
  byName := .empty
  byCode := .empty
  definitions := by simp

/-- A definition is found by its name through the index as by a search. -/
lemma attribute?_vendor (ht : t.Coherent) (name : String) :
    t.attribute? name = t.vendor.attribute? name :=
  ht.byName.bind_getElem?_eq_find? fun _ => sameName_iff.trans nameKey_inj.symm

/-- A definition is found by its code through the index as by a search. -/
lemma attributeOf?_vendor (ht : t.Coherent) (code : UInt8) :
    t.attributeOf? code = t.vendor.attributeOf? code :=
  ht.byCode.bind_getElem?_eq_find? fun _ => beq_iff_eq

lemma Coherent.wellFormed (ht : t.Coherent) : t.vendor.WellFormed where
  names_nodup := by
    have hkeys := ht.byName.nodup
    rw [show (fun d : Definition => nameKey d.name) = String.ofList ∘ fun d => fold d.name from rfl,
      ← List.map_map] at hkeys
    exact hkeys.of_map
  codes_nodup := ht.byCode.nodup
  definitions := fun d hd => ht.definitions d (Array.mem_toList_iff.1 hd)

/-- A definition is taken or refused as in a table without indexes. -/
lemma vendor_insert (ht : t.Coherent) (d : Definition) :
    (t.insert d).map Table.vendor = t.vendor.insert d := by
  have hname : t.byName.contains (nameKey d.name) = (t.vendor.attribute? d.name).isSome :=
    ht.byName.contains_eq_isSome_find? fun _ => sameName_iff.trans nameKey_inj.symm
  have hcode : t.byCode.contains d.code = (t.vendor.attributeOf? d.code).isSome :=
    ht.byCode.contains_eq_isSome_find? fun _ => beq_iff_eq
  rw [insert, Vendor.insert, hname, hcode]
  split_ifs
  · rfl
  · simp [Except.map, vendor]

lemma Coherent.insert (ht : t.Coherent) (hd : d.WellFormed) (h : t.insert d = .ok t') :
    t'.Coherent := by
  rcases ht.indexed.insert_cases d with ⟨-, herror⟩ | ⟨-, u, hok, hindexed, hpush⟩
  · simp [h] at herror
  · obtain rfl := Except.ok.inj (h.symm.trans hok)
    refine ⟨hindexed.byName, hindexed.byCode, ?_⟩
    intro e he
    rw [hpush] at he
    rcases Array.mem_push.1 he with he | rfl
    · exact ht.definitions e he
    · exact hd

lemma id_of_insert (h : t.insert d = .ok t') : t'.id = t.id := by
  rw [insert] at h
  split_ifs at h
  obtain rfl := Except.ok.inj h
  rfl

lemma name_of_insert (h : t.insert d = .ok t') : t'.name = t.name := by
  rw [insert] at h
  split_ifs at h
  obtain rfl := Except.ok.inj h
  rfl

@[simp] lemma id_modify (name : String) (change : Definition → Definition) :
    (t.modify name change).id = t.id := by
  unfold modify
  split <;> rfl

@[simp] lemma name_modify (name : String) (change : Definition → Definition) :
    (t.modify name change).name = t.name := by
  unfold modify
  split <;> rfl

lemma mem_of_attribute? {name : String} (h : t.attribute? name = some d) : d ∈ t.attributes := by
  obtain ⟨i, -, hd⟩ := Option.bind_eq_some_iff.1 h
  exact Array.mem_of_getElem? hd

/-- The definition of a name changes in the place where a search would find it. -/
lemma vendor_modify (ht : t.Coherent) {name : String} {change : Definition → Definition}
    (hname : ∀ e, (change e).name = e.name) (h : t.attribute? name = some d) :
    (t.modify name change).vendor = t.vendor.replace (change d) := by
  obtain ⟨i, hi, hd⟩ := Option.bind_eq_some_iff.1 h
  have hfound : t.vendor.attribute? (change d).name = some d := by
    rw [hname, Vendor.attribute?_eq_some_iff ht.wellFormed]
    exact ⟨Array.mem_toList_iff.2 (Array.mem_of_getElem? hd), rfl⟩
  obtain ⟨before, after, hold, hnew⟩ := Vendor.attributes_replace hfound
  replace hold : t.attributes.toList = before ++ d :: after := hold
  have hplace : i = before.length := by
    refine ht.byName.eq_of_key_eq hd (b := d) ?_ rfl
    rw [← Array.getElem?_toList, hold]
    simp
  have hchanged : t.attributes.toList.modify i change = before ++ change d :: after := by
    have hlt : i < t.attributes.toList.length := by
      rw [hold, hplace, List.length_append, List.length_cons]
      omega
    obtain ⟨before', e, after', hsplit, hlength, hmodify⟩ := List.exists_of_modify change hlt
    obtain ⟨rfl, hrest⟩ := List.append_inj (hsplit.symm.trans hold) (hlength.trans hplace)
    obtain ⟨rfl, rfl⟩ := List.cons.inj hrest
    exact hmodify
  rw [modify, hi]
  show Vendor.mk t.name t.id (t.attributes.modify i change).toList =
    Vendor.mk t.name t.id (t.vendor.replace (change d)).attributes
  rw [hnew, Array.toList_modify, hchanged]

lemma Coherent.modify (ht : t.Coherent) {name : String} {change : Definition → Definition}
    (hname : ∀ e, (change e).name = e.name) (hcode : ∀ e, (change e).code = e.code)
    (h : t.attribute? name = some d) (hd : (change d).WellFormed) :
    (t.modify name change).Coherent := by
  obtain ⟨i, hi, hat⟩ := Option.bind_eq_some_iff.1 h
  rw [Table.modify, hi]
  refine ⟨ht.byName.modify fun e => by rw [hname], ht.byCode.modify hcode, ?_⟩
  intro e he
  obtain ⟨j, hj⟩ := Array.mem_iff_getElem?.1 he
  rw [Array.getElem?_modify] at hj
  split_ifs at hj with hij
  · subst hij
    rw [hat] at hj
    obtain rfl := Option.some.inj hj
    exact hd
  · exact ht.definitions e (Array.mem_of_getElem? hj)

end Table

end Radius
