/-
# Tables built definition by definition

A definition that is offered to a table is handed back, and the table is as it was, if its name or
its code is that of a definition of the table; otherwise it is put behind the others (`run_enter`).
So the definitions of a table to which many were offered are those that were not handed back, in
order, and both indexes lead to these and to no others (`run_enterAll`).
-/
import Radius.Proofs.Outcome
import Radius.Proofs.Registry.Table
import Radius.Registry.Building

namespace Radius

open Text

namespace Table

variable {t : Table} {d e : Definition} {given rest : List Definition}
  {answers later : List (Except Definition Unit)}

/-! ### Answers -/

/-- The definitions that were not handed back. -/
def taken (given : List Definition) (answers : List (Except Definition Unit)) : List Definition :=
  ((given.zip answers).filter (·.2.isOk)).map (·.1)

lemma taken_cons_ok : taken (d :: rest) (.ok () :: later) = d :: taken rest later :=
  rfl

lemma taken_cons_error : taken (d :: rest) (.error e :: later) = taken rest later :=
  rfl

lemma mem_taken_iff :
    e ∈ taken given answers ↔ ∃ j : ℕ, given[j]? = some e ∧ answers[j]? = some (.ok ()) := by
  have hok : ∀ answer : Except Definition Unit, answer.isOk = true ↔ answer = .ok () := by
    rintro (_ | ⟨⟩)
    · exact ⟨nofun, nofun⟩
    · exact ⟨fun _ => rfl, fun _ => rfl⟩
  simp only [taken, List.mem_map, List.mem_filter, hok]
  simp only [List.mem_iff_getElem?, List.getElem?_zip_eq_some]
  constructor
  · rintro ⟨⟨_, _⟩, ⟨⟨j, hgiven, hanswer⟩, rfl⟩, rfl⟩
    exact ⟨j, hgiven, hanswer⟩
  · rintro ⟨j, hgiven, hanswer⟩
    exact ⟨(e, .ok ()), ⟨⟨j, hgiven, hanswer⟩, rfl⟩, rfl⟩

/-- A clash is with a definition that was offered before and was taken. -/
lemma exists_taken_take_clashes_iff {i : ℕ} :
    (∃ e ∈ taken (given.take i) (answers.take i), e.Clashes d) ↔
      ∃ j < i, ∃ e, given[j]? = some e ∧ answers[j]? = some (.ok ()) ∧ e.Clashes d := by
  simp only [mem_taken_iff]
  constructor
  · rintro ⟨e, ⟨j, hgiven, hanswer⟩, hclash⟩
    have hj : j < i := by
      by_contra hj
      rw [List.getElem?_take, if_neg hj] at hgiven
      cases hgiven
    rw [List.getElem?_take_of_lt hj] at hgiven hanswer
    exact ⟨j, hj, e, hgiven, hanswer, hclash⟩
  · rintro ⟨j, hj, e, hgiven, hanswer, hclash⟩
    rw [← List.getElem?_take_of_lt hj] at hgiven hanswer
    exact ⟨e, ⟨j, hgiven, hanswer⟩, hclash⟩

/-! ### One definition -/

/-- Putting a definition into a table in place comes to what making the larger table comes to, and
where it is handed back the table is still there. -/
lemma run_enter (d : Definition) (t : Table) :
    (enter d).run.run t =
      match t.insert d with
      | .ok t' => (.ok (), t')
      | .error d => (.error d, t) := by
  rw [insert]
  by_cases htaken : t.byName.contains (nameKey d.name) ∨ t.byCode.contains d.code
  · rw [if_pos htaken]
    change ExceptT.run (if t.byName.contains (nameKey d.name) ∨ t.byCode.contains d.code then
      (throw d : Building Unit) else _) t = _
    rw [if_pos htaken]
    rfl
  · rw [if_neg htaken]
    change ExceptT.run (if t.byName.contains (nameKey d.name) ∨ t.byCode.contains d.code then
      (throw d : Building Unit) else _) t = _
    rw [if_neg htaken]
    rfl

/-- One offer: it is turned down, and nothing is done, if a definition of the table clashes, and
otherwise the table has one definition more. -/
lemma Indexed.run_enter_cases (ht : t.Indexed) (d : Definition) :
    (∃ e ∈ t.attributes.toList, e.Clashes d) ∧ (enter d).run.run t = (.error d, t) ∨
      (¬ ∃ e ∈ t.attributes.toList, e.Clashes d) ∧
        ∃ t', (enter d).run.run t = (.ok (), t') ∧ t'.Indexed ∧
          t'.attributes.toList = t.attributes.toList ++ [d] := by
  rcases ht.insert_cases d with ⟨hclash, hinsert⟩ | ⟨hnew, t', hinsert, ht', hpush⟩
  · exact .inl ⟨hclash, by rw [run_enter, hinsert]⟩
  · exact .inr ⟨hnew, t', by rw [run_enter, hinsert], ht', by rw [hpush, Array.toList_push]⟩

/-! ### Runs -/

lemma run_enterAll_cons (d : Definition) (rest : List Definition) (t : Table) :
    (enterAll (d :: rest)).run t =
      (((enter d).run.run t).1 :: ((enterAll rest).run ((enter d).run.run t).2).1,
        ((enterAll rest).run ((enter d).run.run t).2).2) :=
  Outcome.run_mapM_cons _ d rest t

lemma length_enterAll (given : List Definition) (t : Table) :
    ((enterAll given).run t).1.length = given.length := by
  induction given generalizing t with
  | nil => rfl
  | cons d rest ih => rw [run_enterAll_cons, List.length_cons, ih, List.length_cons]

/-- The first answers are those to the first definitions. -/
lemma take_enterAll (given : List Definition) (t : Table) (i : ℕ) :
    ((enterAll given).run t).1.take i = ((enterAll (given.take i)).run t).1 := by
  induction given generalizing t i with
  | nil => rw [List.take_nil]; exact List.take_nil
  | cons d rest ih =>
      cases i with
      | zero => rfl
      | succ i =>
          rw [run_enterAll_cons, List.take_succ_cons, ih, List.take_succ_cons, run_enterAll_cons]

/-- Each definition is offered to the table that those before it leave. -/
lemma run_enter_take {i : ℕ} (hd : given[i]? = some d) (t : Table) :
    ∃ answer, ((enterAll given).run t).1[i]? = some answer ∧
      (enter d).run.run ((enterAll (given.take i)).run t).2 =
        (answer, ((enterAll (given.take (i + 1))).run t).2) := by
  induction given generalizing t i with
  | nil => simp at hd
  | cons first rest ih =>
      rw [run_enterAll_cons, List.take_succ_cons, run_enterAll_cons]
      cases i with
      | zero =>
          obtain rfl := Option.some.inj hd
          exact ⟨_, rfl, rfl⟩
      | succ i =>
          rw [List.take_succ_cons, run_enterAll_cons]
          exact ih hd _

/-- Many offers: the definitions that were not handed back are behind those of the table, in order,
and the indexes are in step with them. -/
lemma Indexed.run_enterAll (ht : t.Indexed) (given : List Definition) :
    ((enterAll given).run t).2.Indexed ∧
      ((enterAll given).run t).2.attributes.toList =
        t.attributes.toList ++ taken given ((enterAll given).run t).1 := by
  induction given generalizing t with
  | nil => exact ⟨ht, (List.append_nil _).symm⟩
  | cons d rest ih =>
      rw [run_enterAll_cons]
      rcases ht.run_enter_cases d with ⟨-, hrun⟩ | ⟨-, t', hrun, ht', hattributes⟩
      · rw [hrun, taken_cons_error]
        exact ih ht
      · rw [hrun, taken_cons_ok]
        obtain ⟨hindexed, hrest⟩ := ih ht'
        refine ⟨hindexed, ?_⟩
        rw [hrest, hattributes, List.append_assoc, List.singleton_append]

/-- **A table takes what is new to it.**  Of definitions that are offered to a new table one after
the other, each is either taken or handed back as it is.  It is handed back just when its name, in
any letter case, or its code is that of a definition that was offered before it and was taken; and
then the table is as it was, so that neither its name nor its code is taken.  The definitions of the
table are in the end those that were taken, in the order in which they were offered, and each name
in any letter case and each code leads to the one of them that has it. -/
theorem enterAll_takes_what_is_new (name : String) (id : UInt32) (given : List Definition) :
    ∃ answers t, (enterAll given).run { name, id } = (answers, t) ∧
      answers.length = given.length ∧
      (∀ i d, given[i]? = some d →
        (answers[i]? = some (.ok ()) ∨ answers[i]? = some (.error d)) ∧
        (answers[i]? = some (.error d) ↔
          ∃ j < i, ∃ e, given[j]? = some e ∧ answers[j]? = some (.ok ()) ∧ e.Clashes d) ∧
        ∃ s s', (enterAll (given.take i)).run { name, id } = (answers.take i, s) ∧
          (enterAll (given.take (i + 1))).run { name, id } = (answers.take (i + 1), s') ∧
          (answers[i]? = some (.error d) → s' = s)) ∧
      t.attributes.toList = taken given answers ∧
      (∀ label d, t.attribute? label = some d ↔
        d ∈ taken given answers ∧ fold d.name = fold label) ∧
      ∀ code d, t.attributeOf? code = some d ↔ d ∈ taken given answers ∧ d.code = code := by
  have hnew := indexed_nil name id
  obtain ⟨hindexed, hattributes⟩ := hnew.run_enterAll given
  have hlength := length_enterAll given { name, id }
  have htake := take_enterAll given { name, id }
  have hoffer := fun (i : ℕ) (d : Definition) (hd : given[i]? = some d) =>
    run_enter_take hd { name, id }
  rcases hrun : (enterAll given).run { name, id } with ⟨answers, t⟩
  simp only [hrun, List.nil_append] at hindexed hattributes hlength htake hoffer
  refine ⟨answers, t, rfl, hlength, ?_, hattributes, ?_, ?_⟩
  · intro i d hd
    obtain ⟨answer, hanswer, hoffered⟩ := hoffer i d hd
    obtain ⟨hbefore, hheld⟩ := hnew.run_enterAll (given.take i)
    rw [List.nil_append, ← htake i] at hheld
    rw [hanswer, htake i, htake (i + 1), ← exists_taken_take_clashes_iff, ← hheld]
    rcases hbefore.run_enter_cases d with ⟨hclash, hrefused⟩ | ⟨hclash, t', htaken, -, -⟩
    · obtain ⟨rfl, hsame⟩ := Prod.mk.inj (hrefused.symm.trans hoffered)
      exact ⟨.inr rfl, ⟨fun _ => hclash, fun _ => rfl⟩, _, _, rfl, rfl, fun _ => hsame.symm⟩
    · obtain ⟨rfl, hafter⟩ := Prod.mk.inj (htaken.symm.trans hoffered)
      exact ⟨.inl rfl, ⟨nofun, fun h => absurd h hclash⟩, _, _, rfl, rfl, nofun⟩
  · intro label d
    rw [← hattributes, ← nameKey_inj]
    exact hindexed.byName.bind_getElem?_eq_some_iff
  · intro code d
    rw [← hattributes]
    exact hindexed.byCode.bind_getElem?_eq_some_iff

/-- A definition handed back for its name has not taken its code, and one handed back for its code
has not taken its name: the last of these four has both and is taken. -/
theorem enterAll_takes_what_is_new_after_refusals :
    ∃ t, (enterAll [⟨"Level", 1, "integer", [], []⟩, ⟨"LEVEL", 2, "string", [], []⟩,
          ⟨"Group", 1, "string", [], []⟩, ⟨"group", 2, "string", [], []⟩]).run
        { name := "Acme", id := 9 } =
          ([.ok (), .error ⟨"LEVEL", 2, "string", [], []⟩, .error ⟨"Group", 1, "string", [], []⟩,
            .ok ()], t) ∧
      t.attributes.toList = [⟨"Level", 1, "integer", [], []⟩, ⟨"group", 2, "string", [], []⟩] ∧
      t.attribute? "LEVEL" = some ⟨"Level", 1, "integer", [], []⟩ ∧
      t.attributeOf? 2 = some ⟨"group", 2, "string", [], []⟩ := by
  obtain ⟨answers, t, hrun, hlength, hoffers, hattributes, hnames, hcodes⟩ :=
    enterAll_takes_what_is_new "Acme" 9 [⟨"Level", 1, "integer", [], []⟩,
      ⟨"LEVEL", 2, "string", [], []⟩, ⟨"Group", 1, "string", [], []⟩,
      ⟨"group", 2, "string", [], []⟩]
  obtain ⟨a, b, c, d, rfl⟩ : ∃ a b c d, answers = [a, b, c, d] := by
    match answers, hlength with
    | [a, b, c, d], _ => exact ⟨a, b, c, d, rfl⟩
  have ha : a = .ok () := by
    rcases (hoffers 0 _ rfl).1 with h | h
    · exact Option.some.inj h
    · obtain ⟨j, hj, -⟩ := (hoffers 0 _ rfl).2.1.1 h
      exact absurd hj (Nat.not_lt_zero j)
  have hb : b = .error ⟨"LEVEL", 2, "string", [], []⟩ :=
    Option.some.inj ((hoffers 1 _ rfl).2.1.2
      ⟨0, by decide, _, rfl, congrArg some ha, .inl (by decide)⟩)
  have hc : c = .error ⟨"Group", 1, "string", [], []⟩ :=
    Option.some.inj ((hoffers 2 _ rfl).2.1.2
      ⟨0, by decide, _, rfl, congrArg some ha, .inr rfl⟩)
  have hd : d = .ok () := by
    rcases (hoffers 3 _ rfl).1 with h | h
    · exact Option.some.inj h
    · -- those before it with its name or its code were handed back
      obtain ⟨j, hj, e, he, htaken, hclash⟩ := (hoffers 3 _ rfl).2.1.1 h
      match j, hj with
      | 0, _ =>
          obtain rfl := Option.some.inj he
          exact absurd (show _ ∨ _ from hclash) (by decide)
      | 1, _ => exact absurd (Option.some.inj htaken) (hb ▸ nofun)
      | 2, _ => exact absurd (Option.some.inj htaken) (hc ▸ nofun)
  subst ha hb hc hd
  refine ⟨t, hrun, hattributes, ?_, ?_⟩
  · exact (hnames _ _).2 ⟨List.mem_cons_self, by decide⟩
  · exact (hcodes _ _).2 ⟨List.mem_cons_of_mem _ List.mem_cons_self, rfl⟩

end Table

end Radius
