/-
# Loading through indexes

Reading a text into a coherent registry goes step by step like reading it into the dictionary that
the registry is without its indexes: the states stay in correspondence, and a fault is the same
fault (`Matches`).  So the indexes stay in step with the tables through every text, and a registry
accepts, refuses and becomes what the dictionary does (`dictionary_load`).
-/
import Mathlib.Data.List.Find
import Radius.Proofs.Registry.Refinement
import Radius.Registry.Loading

namespace Radius

open Text

namespace Registrar

/-- A state with a coherent registry, in which the vendor of the open block is there. -/
structure Coherent (s : Registrar) : Prop where
  registry : s.registry.Coherent
  block : ∀ block ∈ s.block, ∃ t, s.registry.vendor? block.vendor = some t

/-- Outcomes with and without indexes that belong together: a coherent state and the state that it
is without the indexes, or the same error. -/
inductive Matches {ε : Type} : Except ε Registrar → Except ε Loader → Prop
  | ok {s : Registrar} : s.Coherent → Matches (.ok s) (.ok s.loader)
  | error {e : ε} : Matches (.error e) (.error e)

variable {s : Registrar}

@[simp] lemma dictionary_loader : s.loader.dictionary = s.registry.dictionary := rfl

@[simp] lemma block_loader : s.loader.block = s.block := rfl

lemma Matches.mapError {ε ε' : Type} {x : Except ε Registrar} {y : Except ε Loader}
    (h : Matches x y) (f : ε → ε') : Matches (x.mapError f) (y.mapError f) := by
  cases h with
  | ok hs => exact .ok hs
  | error => exact .error

/-! ### Directives -/

lemma declareVendor_matches (hs : s.Coherent) (name number : String) (format : Option String) :
    Matches (s.declareVendor name number format) (s.loader.declareVendor name number format) := by
  unfold declareVendor Loader.declareVendor
  cases UInt32.ofNat <$> sourceNat UInt32.size number with
  | error fault => exact .error
  | ok id =>
      simp only [bind, Except.bind]
      cases format.filter (· ≠ "format=1,1") with
      | some format => exact .error
      | none =>
          have hdeclare := Registry.dictionary_declare? hs.registry name id
          change _ = s.loader.dictionary.declare? name id at hdeclare
          cases hregistry : s.registry.declare? name id with
          | none =>
              rw [hregistry] at hdeclare
              simp only [← hdeclare, Option.map_none]
              exact .error
          | some registry =>
              rw [hregistry] at hdeclare
              simp only [← hdeclare, Option.map_some]
              exact .ok ⟨hs.registry.declare? hregistry, fun block hblock =>
                Registry.exists_vendor?_of_declare? hregistry (hs.block block hblock)⟩

lemma beginBlock_matches (hs : s.Coherent) (line : Nat) (name : String) :
    Matches (s.beginBlock line name) (s.loader.beginBlock line name) := by
  rw [beginBlock, Loader.beginBlock, block_loader, dictionary_loader,
    hs.registry.vendorNamed?_dictionary]
  cases s.block with
  | some block => exact .error
  | none =>
      cases hfound : s.registry.vendorNamed? name with
      | none => exact .error
      | some t =>
          refine .ok ⟨hs.registry, ?_⟩
          intro block hblock
          obtain rfl := Option.some.inj hblock
          have hmem := (hs.registry.vendorNamed?_eq_some_iff.1 hfound).1
          exact ⟨t, hs.registry.mem_tables_iff.1 hmem⟩

lemma endBlock_matches (hs : s.Coherent) (name : String) :
    Matches (s.endBlock name) (s.loader.endBlock name) := by
  rw [endBlock, Loader.endBlock, block_loader]
  cases s.block with
  | none => exact .error
  | some block =>
      show Matches (if sameName block.name name = true then _ else _)
        (if sameName block.name name = true then _ else _)
      split_ifs
      · exact .ok ⟨hs.registry, by simp⟩
      · exact .error

/-- An attribute is refused for the same fault, or goes to the same vendor with the same flags. -/
lemma target_matches (hs : s.Coherent) (name : String) (fourth fifth : Option String) :
    (∃ fault, s.target name fourth fifth = .error fault ∧
        s.loader.target name fourth fifth = .error fault) ∨
      ∃ id vendor flags t, s.registry.vendor? id = some t ∧
        s.target name fourth fifth = .ok (id, vendor, flags) ∧
        s.loader.target name fourth fifth = .ok (t.vendor, flags) := by
  have hnamed : fourth.bind s.loader.dictionary.vendorNamed? =
      (fourth.bind s.registry.vendorNamed?).map Table.vendor := by
    cases fourth with
    | none => rfl
    | some field => exact hs.registry.vendorNamed?_dictionary field
  unfold target Loader.target
  rw [hnamed]
  cases hfound : fourth.bind s.registry.vendorNamed? with
  | some t =>
      obtain ⟨field, -, ht⟩ := Option.bind_eq_some_iff.1 hfound
      have hmem := (hs.registry.vendorNamed?_eq_some_iff.1 ht).1
      exact Or.inr ⟨t.id, t.name, fifth, t, hs.registry.mem_tables_iff.1 hmem, rfl, rfl⟩
  | none =>
      rw [block_loader]
      cases hblock : s.block with
      | some block =>
          obtain ⟨t, ht⟩ := hs.block block hblock
          have hvendor : s.registry.dictionary.vendor? block.vendor = some t.vendor := by
            rw [hs.registry.vendor?_dictionary, ht, Option.map_some]
          exact Or.inr ⟨block.vendor, block.name, fourth, t, ht, rfl, by simp [hvendor]⟩
      | none => cases fourth <;> exact Or.inl ⟨_, rfl, rfl⟩

/-- A state with a changed table corresponds to the one with the changed vendor. -/
lemma update_matches (hs : s.Coherent) {id : UInt32} {t u : Table}
    (ht : s.registry.vendor? id = some t) (hu : u.Coherent) (hid : u.id = t.id)
    (hname : u.name = t.name) :
    Matches (ε := SourceFault) (.ok { s with registry := s.registry.update id u })
      (.ok { s.loader with dictionary := s.loader.dictionary.update u.vendor }) := by
  rw [dictionary_loader, ← Registry.dictionary_update hs.registry ht hu hid hname]
  exact .ok ⟨hs.registry.update ht hu hid hname, fun block hblock =>
    Registry.exists_vendor?_update (hs.block block hblock)⟩

lemma declareAttribute_matches (hs : s.Coherent) (name code typeName : String)
    (fourth fifth : Option String) :
    Matches (s.declareAttribute name code typeName fourth fifth)
      (s.loader.declareAttribute name code typeName fourth fifth) := by
  unfold declareAttribute Loader.declareAttribute
  rcases target_matches hs name fourth fifth with
    ⟨fault, htarget, htarget'⟩ | ⟨id, vendor, flags, t, ht, htarget, htarget'⟩
  · rw [htarget, htarget']
    exact .error
  · rw [htarget, htarget']
    cases UInt8.ofNat <$> sourceNat UInt8.size code with
    | error fault => exact .error
    | ok code =>
        simp only [bind, Except.bind, ht]
        split_ifs with hcode
        · exact .error
        · have hcoherent := hs.registry.table ht
          have hinsert := Table.vendor_insert hcoherent
            { name, code, typeName, flags := Loader.splitFlags flags }
          cases htable : t.insert { name, code, typeName, flags := Loader.splitFlags flags } with
          | error d =>
              rw [htable] at hinsert
              simp only [← hinsert]
              exact .error
          | ok u =>
              rw [htable] at hinsert
              simp only [← hinsert]
              have hd : Definition.WellFormed
                  { name, code, typeName, flags := Loader.splitFlags flags } :=
                ⟨hcode, .nil, fun hvalues => absurd rfl hvalues⟩
              exact update_matches hs ht (hcoherent.insert hd htable) (Table.id_of_insert htable)
                (Table.name_of_insert htable)

/-- A value is declared for the attribute of the same vendor. -/
lemma valueVendor?_loader (hs : s.Coherent) (owner : String) :
    s.loader.valueVendor? owner =
      ((s.valueVendor? owner).bind s.registry.vendor?).map Table.vendor := by
  rw [valueVendor?, Loader.valueVendor?, block_loader]
  cases s.block with
  | some block => exact hs.registry.vendor?_dictionary block.vendor
  | none =>
      have hsearch : s.registry.tables.find? (fun t => (t.vendor.attribute? owner).isSome) =
          s.registry.tables.find? fun t => (t.attribute? owner).isSome :=
        List.find?_congr fun t ht => by
          rw [Table.attribute?_vendor (hs.registry.coherent_of_mem ht)]
      show (s.registry.tables.map Table.vendor).find? _ = _
      rw [List.find?_map]
      change Option.map _ (s.registry.tables.find? fun t => (t.vendor.attribute? owner).isSome) = _
      rw [hsearch]
      cases hfound : s.registry.tables.find? fun t => (t.attribute? owner).isSome with
      | none => rfl
      | some t =>
          have ht := hs.registry.mem_tables_iff.1 (List.mem_of_find?_eq_some hfound)
          show some t.vendor = (s.registry.vendor? t.id).map Table.vendor
          rw [Registry.vendor?, ht, Option.map_some]

lemma declareValue_matches (hs : s.Coherent) (owner name number : String) :
    Matches (s.declareValue owner name number) (s.loader.declareValue owner name number) := by
  rw [declareValue, Loader.declareValue, valueVendor?_loader hs]
  cases (sourceNumber? number).bind pattern32? with
  | none => exact .error
  | some number =>
      cases s.valueVendor? owner with
      | none => exact .error
      | some id =>
          simp only [Option.bind_some]
          cases ht : s.registry.vendor? id with
          | none => exact .error
          | some t =>
              have hcoherent := hs.registry.table ht
              simp only [Option.map_some, ← Table.attribute?_vendor hcoherent]
              cases hd : t.attribute? owner with
              | none => exact .error
              | some d =>
                  simp only []
                  split_ifs with hkind
                  · exact .error
                  · rw [Decidable.not_not] at hkind
                    have hvalue := (hcoherent.definitions d
                      (Table.mem_of_attribute? hd)).declareValue hkind name number
                    have hu : (t.modify owner (·.declareValue name number)).Coherent :=
                      hcoherent.modify (fun _ => rfl) (fun _ => rfl) hd hvalue
                    have hreplace : (t.modify owner (·.declareValue name number)).vendor =
                        t.vendor.replace (d.declareValue name number) :=
                      Table.vendor_modify hcoherent (fun _ => rfl) hd
                    rw [← hreplace]
                    exact update_matches hs ht hu (Table.id_modify owner _)
                      (Table.name_modify owner _)

lemma apply_matches (hs : s.Coherent) (line : Nat) (directive : Directive) :
    Matches (s.apply line directive) (s.loader.apply line directive) := by
  cases directive with
  | declareVendor name number format =>
      exact (declareVendor_matches hs name number format).mapError _
  | beginBlock name => exact beginBlock_matches hs line name
  | endBlock name => exact (endBlock_matches hs name).mapError _
  | declareAttribute name code typeName fourth fifth =>
      exact (declareAttribute_matches hs name code typeName fourth fifth).mapError _
  | declareValue owner name number => exact (declareValue_matches hs owner name number).mapError _
  | unsupported keyword => exact .ok hs

/-! ### Lines and texts -/

lemma step_matches (hs : s.Coherent) (line : SourceLine) :
    Matches (s.step line) (s.loader.step line) := by
  rw [step, Loader.step]
  cases line.words with
  | nil => exact .ok hs
  | cons keyword fields =>
      cases hwords : Directive.ofWords keyword fields with
      | error fault =>
          simp only [hwords]
          exact .error
      | ok directive =>
          simp only [hwords]
          exact apply_matches hs line.number directive

lemma run_matches (hs : s.Coherent) (lines : List SourceLine) :
    Matches (s.run lines) (s.loader.run lines) := by
  induction lines generalizing s with
  | nil => exact .ok hs
  | cons line rest ih =>
      have hstep := step_matches hs line
      rw [run, Loader.run]
      revert hstep
      generalize s.step line = x, s.loader.step line = y
      intro hstep
      cases hstep with
      | ok ht => exact ih ht
      | error => exact .error

end Registrar

namespace Registry

variable {r r' : Registry} {text : String}

/-- A text is refused for the same fault with and without indexes, or it is loaded, and then the
indexes are in step and what is loaded is the same. -/
lemma load_cases (hr : r.Coherent) (text : String) :
    (∃ e, r.load text = .error e ∧ r.dictionary.load text = .error e) ∨
      ∃ r', r.load text = .ok r' ∧ r'.Coherent ∧
        r.dictionary.load text = .ok r'.dictionary := by
  have hs : Registrar.Coherent ⟨r, none⟩ := ⟨hr, by simp⟩
  have hrun := Registrar.run_matches hs (SourceLine.ofText text)
  unfold load Dictionary.load
  revert hrun
  generalize Registrar.run ⟨r, none⟩ (SourceLine.ofText text) = x
  change Registrar.Matches x (Loader.run ⟨r.dictionary, none⟩ (SourceLine.ofText text)) → _
  generalize Loader.run ⟨r.dictionary, none⟩ (SourceLine.ofText text) = y
  intro hrun
  cases hrun with
  | @error e => exact Or.inl ⟨e, rfl, rfl⟩
  | @ok s hs =>
      show (∃ e, s.finish = .error e ∧ s.loader.finish = .error e) ∨
        ∃ r', s.finish = .ok r' ∧ r'.Coherent ∧ s.loader.finish = .ok r'.dictionary
      rw [Registrar.finish, Loader.finish, show s.loader.block = s.block from rfl]
      cases s.block with
      | some block => exact Or.inl ⟨_, rfl, rfl⟩
      | none => exact Or.inr ⟨s.registry, rfl, hs.registry, rfl⟩

/-- A text makes of a registry what it makes of the dictionary, and is refused for the same
fault. -/
lemma dictionary_load (hr : r.Coherent) (text : String) :
    (r.load text).map dictionary = r.dictionary.load text := by
  rcases load_cases hr text with ⟨e, h, h'⟩ | ⟨r', h, -, h'⟩ <;> rw [h, h'] <;> rfl

/-- The indexes stay in step with the tables through every text. -/
lemma Coherent.load (hr : r.Coherent) (h : r.load text = .ok r') : r'.Coherent := by
  rcases load_cases hr text with ⟨e, he, -⟩ | ⟨_, hok, hcoherent, -⟩
  · simp [h] at he
  · rw [h] at hok
    exact Except.ok.inj hok ▸ hcoherent

end Registry

end Radius
