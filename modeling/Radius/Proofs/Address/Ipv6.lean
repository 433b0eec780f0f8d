/-
# IPv6 addresses recognised

`Ipv6.IsText` says without the reader which texts are IPv6 addresses: eight groups of one to four
hexadecimal digits with colons between them, or at most seven groups around one `::`, where a dotted
IPv4 address may close the text in place of the last two groups.  The reader takes a row of groups
as a whole (`groups_eq_of_row`) and takes nothing but rows (`reads_groups`); so it accepts these
texts and no others (`isAddress_iff`).
-/
import Radius.Proofs.Address

namespace Radius.Ipv6

open Text

/-- A group is one to four hexadecimal digits. -/
structure IsGroup (text : List Char) : Prop where
  length_pos : 1 ≤ text.length
  length_le : text.length ≤ 4
  digits : ∀ c ∈ text, (digit? 16 c).isSome = true

/-- Groups with colons between them, with whether a dotted address closes them and how many of the
eight groups of an address they stand for. -/
inductive Row : (dotted : Bool) → (filled : Nat) → List Char → Prop
  | group {text : List Char} (h : IsGroup text) : Row false 1 text
  | dotted (address : Ipv4) : Row true 2 address.render.toList
  | cons {text rest : List Char} {dotted : Bool} {filled : Nat} (h : IsGroup text)
      (hrest : Row dotted filled rest) : Row dotted (filled + 1) (text ++ ':' :: rest)

/-- What stands on one side of a `::`: a row or nothing. -/
inductive Side : (dotted : Bool) → (filled : Nat) → List Char → Prop
  | none : Side false 0 []
  | row {dotted : Bool} {filled : Nat} {text : List Char} (h : Row dotted filled text) :
      Side dotted filled text

/-- The texts of IPv6 addresses. -/
inductive IsText : List Char → Prop
  | full {dotted : Bool} {text : List Char} (h : Row dotted 8 text) : IsText text
  | short {dotted : Bool} {filled filled' : Nat} {before after : List Char}
      (hbefore : Side false filled before) (hafter : Side dotted filled' after)
      (h : filled + filled' ≤ 7) : IsText (before ++ ':' :: ':' :: after)

variable {first dotted : Bool} {slots filled : Nat} {group whole body text rest : List Char}

/-! ### Single groups -/

/-- Where a group ends: at the end of the text or at a colon. -/
def GroupEnd (rest : List Char) : Prop :=
  rest = [] ∨ ∃ further, rest = ':' :: further

lemma GroupEnd.head (h : GroupEnd rest) {base : Nat} :
    ∀ c ∈ rest.head?, (digit? base c).isSome = false := by
  rcases h with rfl | ⟨further, rfl⟩
  · simp
  · intro c hc
    obtain rfl := Option.some.inj hc
    rfl

lemma afterGroup?_eq_some_iff :
    afterGroup? text = some rest ↔
      ∃ group, IsGroup group ∧ text = group ++ rest ∧
        ∀ c ∈ rest.head?, (digit? 16 c).isSome = false := by
  rw [afterGroup?]
  constructor
  · intro h
    split_ifs at h with hlength
    have hrest := Option.some.inj h
    have hdigits : ∀ c ∈ text.takeWhile fun c => (digit? 16 c).isSome,
        (digit? 16 c).isSome = true := by
      intro c hc
      exact List.mem_takeWhile_imp (p := fun c => (digit? 16 c).isSome) hc
    refine ⟨_, ⟨hlength.1, hlength.2, hdigits⟩, ?_, head?_dropWhile hrest⟩
    rw [← hrest, List.takeWhile_append_dropWhile]
  · rintro ⟨group, hgroup, rfl, hrest⟩
    simp only [takeWhile_run hgroup.digits hrest, dropWhile_run hgroup.digits hrest]
    exact if_pos ⟨hgroup.length_pos, hgroup.length_le⟩

lemma not_isGroup_of_groupEnd (h : IsGroup group) : ¬ GroupEnd (group ++ rest) := by
  have hpos := h.length_pos
  cases group with
  | nil => simp at hpos
  | cons c group =>
      have hdigit := h.digits c List.mem_cons_self
      intro hend
      rw [hend.head c rfl] at hdigit
      exact Bool.false_ne_true hdigit

lemma afterGroup?_eq_none (h : GroupEnd body) : afterGroup? body = none := by
  cases hafter : afterGroup? body with
  | none => rfl
  | some rest =>
      obtain ⟨group, hgroup, rfl, -⟩ := afterGroup?_eq_some_iff.1 hafter
      exact absurd h (not_isGroup_of_groupEnd hgroup)

/-- A dotted address has a point before any colon. -/
lemma read?_eq_none (hgroup : ∀ c ∈ group, c ≠ '.' ∧ c ≠ ':') (hrest : GroupEnd rest) :
    Ipv4.read? (group ++ rest) = none := by
  cases hread : Ipv4.read? (group ++ rest) with
  | none => rfl
  | some found =>
      obtain ⟨address, further⟩ := found
      obtain ⟨hwhole, -⟩ := Ipv4.read?_eq_some_iff.1 hread
      have hpoint : '.' ∈ address.render.toList := by simp [Ipv4.toList_render]
      have haddress : ∀ c ∈ address.render.toList, (c != ':') = true := by
        intro c hc
        rcases Ipv4.mem_render hc with hdigit | rfl
        · refine bne_iff_ne.2 ?_
          rintro rfl
          simp at hdigit
        · rfl
      have hcolon : ∀ c ∈ rest.head?, (c != ':') = false := by
        rcases hrest with rfl | ⟨after, rfl⟩ <;> simp
      have hcut := congrArg (List.takeWhile (· != ':')) hwhole
      rw [takeWhile_run (fun c hc => bne_iff_ne.2 (hgroup c hc).2) hcolon,
        List.takeWhile_append_of_pos haddress] at hcut
      have hmem : '.' ∈ group := hcut ▸ List.mem_append_left _ hpoint
      exact absurd rfl (hgroup _ hmem).1

lemma IsGroup.read?_eq_none (h : IsGroup group) (hrest : GroupEnd rest) :
    Ipv4.read? (group ++ rest) = none := by
  refine Ipv6.read?_eq_none (fun c hc => ?_) hrest
  have hdigit := h.digits c hc
  constructor <;> (rintro rfl; cases hdigit)

/-! ### Rows are read -/

/-- Where a row ends: at the end of the text or at a `::`. -/
def RowEnd (rest : List Char) : Prop :=
  rest = [] ∨ ∃ further, rest = ':' :: ':' :: further

lemma RowEnd.groupEnd (h : RowEnd rest) : GroupEnd rest := by
  rcases h with rfl | ⟨further, rfl⟩
  · exact .inl rfl
  · exact .inr ⟨_, rfl⟩

/-- Nothing is read where no group can start. -/
lemma groups_of_groupEnd (hcolon : afterColon? first whole = some body) (hbody : GroupEnd body) :
    groups slots first whole = (0, false, whole) := by
  cases slots with
  | zero => rfl
  | succ slots =>
      have hread : Ipv4.read? ([] ++ body) = none := Ipv6.read?_eq_none (by simp) hbody
      rw [List.nil_append] at hread
      rw [groups, hcolon]
      simp only [hread, afterGroup?_eq_none hbody, ite_self]

lemma groups_of_rowEnd (h : RowEnd rest) : groups slots false rest = (0, false, rest) := by
  rcases h with rfl | ⟨further, rfl⟩
  · cases slots <;> rfl
  · exact groups_of_groupEnd rfl (.inr ⟨further, rfl⟩)

/-- A group is read, and reading goes on behind it. -/
lemma groups_group (hcolon : afterColon? first whole = some (group ++ rest))
    (hgroup : IsGroup group) (hrest : GroupEnd rest) :
    groups (slots + 1) first whole =
      ((groups slots false rest).1 + 1, (groups slots false rest).2) := by
  have hafter : afterGroup? (group ++ rest) = some rest :=
    afterGroup?_eq_some_iff.2 ⟨group, hgroup, rfl, hrest.head⟩
  rw [groups, hcolon]
  simp only [hgroup.read?_eq_none hrest, hafter, ite_self]

/-- A row that has room is read as a whole. -/
lemma groups_eq_of_row (h : Row dotted filled text) (hroom : filled ≤ slots) (hrest : RowEnd rest)
    (hcolon : afterColon? first whole = some (text ++ rest)) :
    groups slots first whole = (filled, dotted, rest) := by
  induction h generalizing slots first whole with
  | @group text hgroup =>
      obtain ⟨slots, rfl⟩ := Nat.exists_eq_add_of_le' hroom
      rw [groups_group hcolon hgroup hrest.groupEnd, groups_of_rowEnd hrest]
  | dotted address =>
      obtain ⟨slots, rfl⟩ := Nat.exists_eq_add_of_le' hroom
      have hread : Ipv4.read? (address.render.toList ++ rest) = some (address, rest) :=
        Ipv4.read?_eq_some_iff.2 ⟨rfl, hrest.groupEnd.head⟩
      rw [groups, hcolon]
      simp only [hread, Nat.succ_ne_zero, if_false]
  | @cons text further dotted filled hgroup hfurther ih =>
      obtain ⟨slots, rfl⟩ :=
        Nat.exists_eq_add_of_le' (Nat.le_trans (Nat.le_add_left 1 filled) hroom)
      have hnext : groups slots false (':' :: (further ++ rest)) = (filled, dotted, rest) :=
        ih (Nat.le_of_succ_le_succ hroom) rfl
      rw [List.append_assoc, List.cons_append] at hcolon
      rw [groups_group hcolon hgroup (.inr ⟨_, rfl⟩), hnext]

lemma groups_eq_of_side (h : Side dotted filled text) (hroom : filled ≤ slots)
    (hrest : RowEnd rest) : groups slots true (text ++ rest) = (filled, dotted, rest) := by
  cases h with
  | none => exact groups_of_groupEnd rfl hrest.groupEnd
  | row hrow => exact groups_eq_of_row hrow hroom hrest rfl

/-! ### Only rows are read -/

/-- What may be read where `slots` are free: nothing, or a row and what follows it. -/
inductive Reads (slots : Nat) (first : Bool) (whole : List Char) : Nat × Bool × List Char → Prop
  | nothing : Reads slots first whole (0, false, whole)
  | row {dotted : Bool} {filled : Nat} {body rest : List Char} (hroom : filled ≤ slots)
      (hrow : Row dotted filled body) (hcolon : afterColon? first whole = some (body ++ rest)) :
      Reads slots first whole (filled, dotted, rest)

lemma Reads.cons (hcolon : afterColon? first whole = some (group ++ rest)) (hgroup : IsGroup group)
    {outcome : Nat × Bool × List Char} (h : Reads slots false rest outcome) :
    Reads (slots + 1) first whole (outcome.1 + 1, outcome.2) := by
  cases h with
  | nothing => exact .row (Nat.le_add_left 1 slots) (.group hgroup) hcolon
  | @row dotted filled body after hroom hrow hnext =>
      have hrest : rest = ':' :: (body ++ after) := by
        unfold afterColon? at hnext
        split at hnext <;> simp_all
      refine .row (Nat.succ_le_succ hroom) (.cons hgroup hrow) ?_
      rw [hcolon, hrest, List.append_assoc, List.cons_append]

lemma reads_groups (slots : Nat) (first : Bool) (whole : List Char) :
    Reads slots first whole (groups slots first whole) := by
  induction slots generalizing first whole with
  | zero => exact .nothing
  | succ slots ih =>
      rw [groups]
      cases hcolon : afterColon? first whole with
      | none => exact .nothing
      | some body =>
          simp only
          split
          · rename_i address rest hread
            split_ifs at hread with hslots
            obtain ⟨rfl, -⟩ := Ipv4.read?_eq_some_iff.1 hread
            exact .row (by omega) (.dotted address) hcolon
          · cases hafter : afterGroup? body with
            | none => exact .nothing
            | some rest =>
                obtain ⟨group, hgroup, rfl, -⟩ := afterGroup?_eq_some_iff.1 hafter
                exact (ih false rest).cons hcolon hgroup

/-- What is read from the start of a text is one side of a `::`. -/
lemma side_of_groups_eq (h : groups slots true whole = (filled, dotted, rest)) :
    filled ≤ slots ∧ ∃ text, Side dotted filled text ∧ whole = text ++ rest := by
  have hreads := reads_groups slots true whole
  rw [h] at hreads
  cases hreads with
  | nothing => exact ⟨Nat.zero_le slots, [], .none, rfl⟩
  | @row _ _ body _ hroom hrow hcolon => exact ⟨hroom, body, .row hrow, Option.some.inj hcolon⟩

/-! ### Whole texts -/

lemma Side.row_of_pos (h : Side dotted filled text) (hpos : 0 < filled) :
    Row dotted filled text := by
  cases h with
  | none => exact absurd hpos (Nat.lt_irrefl 0)
  | row hrow => exact hrow

/-- The reader accepts the texts of IPv6 addresses and no others. -/
lemma isAddress_iff : isAddress text = true ↔ IsText text := by
  constructor
  · intro h
    cases hgroups : groups 8 true text with
    | mk filled found =>
        obtain ⟨dotted, rest⟩ := found
        simp only [isAddress, hgroups] at h
        obtain ⟨hroom, before, hbefore, rfl⟩ := side_of_groups_eq hgroups
        split_ifs at h with hfull hdotted
        · -- all eight groups
          obtain rfl := List.isEmpty_iff.1 h
          subst hfull
          rw [List.append_nil]
          exact .full (hbefore.row_of_pos (by decide))
        · split at h
          · rename_i further
            obtain rfl : dotted = false := Bool.eq_false_iff.2 hdotted
            cases hrest : groups (7 - filled) true further with
            | mk filled' found =>
                obtain ⟨dotted', rest⟩ := found
                obtain ⟨hroom', after, hafter, rfl⟩ := side_of_groups_eq hrest
                rw [hrest] at h
                obtain rfl := List.isEmpty_iff.1 h
                rw [List.append_nil]
                exact .short hbefore hafter (by omega)
          · cases h
  · intro h
    cases h with
    | @full dotted text hrow =>
        have hgroups : groups 8 true text = (8, dotted, []) :=
          groups_eq_of_row hrow (Nat.le_refl 8) (.inl rfl) (by rw [List.append_nil]; rfl)
        simp only [isAddress, hgroups, if_true, List.isEmpty_nil]
    | @short dotted filled filled' before after hbefore hafter hroom =>
        have hgroups : groups 8 true (before ++ ':' :: ':' :: after) =
            (filled, false, ':' :: ':' :: after) :=
          groups_eq_of_side hbefore (by omega) (.inr ⟨after, rfl⟩)
        have hrest : groups (7 - filled) true after = (filled', dotted, []) := by
          have hroom' : filled' ≤ 7 - filled := by omega
          have h := groups_eq_of_side hafter hroom' (.inl rfl)
          rwa [List.append_nil] at h
        have hne : filled ≠ 8 := by omega
        simp only [isAddress, hgroups, hrest, if_neg hne, Bool.false_eq_true, if_false,
          List.isEmpty_nil]

lemma IsText.colon_mem (h : IsText text) : ':' ∈ text := by
  cases h with
  | full hrow =>
      cases hrow with
      | cons => simp
  | short => simp

end Radius.Ipv6

namespace Radius

open Text

/-- A text is read as an IPv6 address if it is one; no dotted address is one too. -/
lemma Address.parse?_eq_v6_iff {text : List Char} :
    Address.parse? text = some .v6 ↔ Ipv6.IsText text := by
  rw [Address.parse?, ← Ipv6.isAddress_iff]
  constructor
  · intro h
    split at h
    · cases h
    · split at h
      · assumption
      · cases h
  · intro h
    split
    · rename_i address hread
      -- a dotted address has no colon
      have htext := (Ipv4.read?_eq_some_iff.1 hread).1
      have hcolon := (Ipv6.isAddress_iff.1 h).colon_mem
      rw [htext, List.append_nil] at hcolon
      rcases Ipv4.mem_render hcolon with hdigit | hpoint
      · cases hdigit
      · cases hpoint
    · rw [if_pos h]

end Radius
