/-
# Where a text is refused

A text is refused for a line that is at fault, or for a block that is not closed: the block is open
where the text ends or where another block begins (`load_eq_error_cases`).  The run over the lines
before tells the two apart, so it is cut after each line (`exists_step_of_run_eq_error`), and a
block that is open after some lines is followed back to the line that began it (`exists_beginning`).

The first lines of a text make a text of their own (`upToLine`), so what a run does up to a line is
what loading does with these lines (`load_upToLine`).  While lines are read a copy of the registry
is changed, and what stands in it is lost when one of them is refused (`unchanged_of_run_loadText`).
-/
import Mathlib.Data.List.Induction
import Radius.Proofs.Dictionary.Concatenation
import Radius.Proofs.Registry.Loading
import Radius.Registry.Staging

namespace Radius

open Text Outcome

/-! ### Faults of a line -/

/-- A fault of a line itself, not of a block that an earlier line has opened. -/
def SourceFault.OfLine (fault : SourceFault) : Prop :=
  ∀ name, fault ≠ .unclosedBlock name

lemma Directive.ofLine_of_ofWords {keyword : String} {fields : List String} {fault : SourceFault}
    (h : Directive.ofWords keyword fields = .error fault) : fault.OfLine := by
  unfold Directive.ofWords at h
  grind [SourceFault.OfLine]

lemma ofLine_of_sourceNat {bound : Nat} {text : String} {fault : SourceFault}
    (h : sourceNat bound text = .error fault) : fault.OfLine := by
  unfold sourceNat at h
  split at h
  · split at h <;> grind [SourceFault.OfLine]
  · grind [SourceFault.OfLine]

namespace Registrar

variable {s s' : Registrar} {fault : SourceFault} {e : SourceError} {block : Block}

lemma ofLine_of_declareVendor {name number : String} {format : Option String}
    (h : s.declareVendor name number format = .error fault) : fault.OfLine := by
  rcases bind_eq_error_iff.1 h with h | ⟨id, -, h⟩
  · exact ofLine_of_sourceNat (map_eq_error_iff.1 h)
  · grind [SourceFault.OfLine]

lemma ofLine_of_endBlock {name : String} (h : s.endBlock name = .error fault) : fault.OfLine := by
  unfold endBlock at h
  grind [SourceFault.OfLine]

lemma ofLine_of_target {name : String} {fourth fifth : Option String}
    (h : s.target name fourth fifth = .error fault) : fault.OfLine := by
  unfold target at h
  grind [SourceFault.OfLine]

lemma ofLine_of_declareAttribute {name code typeName : String} {fourth fifth : Option String}
    (h : s.declareAttribute name code typeName fourth fifth = .error fault) : fault.OfLine := by
  rcases bind_eq_error_iff.1 h with h | ⟨⟨id, vendor, flags⟩, -, h⟩
  · exact ofLine_of_target h
  · rcases bind_eq_error_iff.1 h with h | ⟨code, -, h⟩
    · exact ofLine_of_sourceNat (map_eq_error_iff.1 h)
    · grind [SourceFault.OfLine]

lemma ofLine_of_declareValue {owner name number : String}
    (h : s.declareValue owner name number = .error fault) : fault.OfLine := by
  unfold declareValue at h
  grind [SourceFault.OfLine]

/-- A line without words does nothing, a directive is carried out, and other words are at fault. -/
lemma step_cases (s : Registrar) (line : SourceLine) :
    s.step line = .ok s ∨
      (∃ directive, line.directive? = some directive ∧
        s.step line = s.apply line.number directive) ∨
      ∃ fault, fault.OfLine ∧ s.step line = .error ⟨line.number, fault⟩ := by
  rw [step]
  cases hwords : line.words with
  | nil => exact Or.inl rfl
  | cons keyword fields =>
      cases hdirective : Directive.ofWords keyword fields with
      | ok directive =>
          have hsome : line.directive? = some directive :=
            SourceLine.directive?_eq_some_iff.2 ⟨keyword, fields, hwords, hdirective⟩
          exact Or.inr (Or.inl ⟨directive, hsome, by simp only [hdirective]⟩)
      | error fault =>
          exact Or.inr (Or.inr ⟨fault, Directive.ofLine_of_ofWords hdirective, by
            simp only [hdirective]⟩)

lemma beginBlock_eq_error {line : Nat} {name : String} (h : s.beginBlock line name = .error e) :
    e = ⟨line, .unknownVendor name⟩ ∨
      ∃ block, s.block = some block ∧ e = ⟨block.line, .unclosedBlock block.name⟩ := by
  unfold beginBlock at h
  grind

/-- A line is at fault itself, or it opens a block while another is open. -/
lemma step_eq_error {line : SourceLine} (h : s.step line = .error e) :
    e.line = line.number ∧ e.fault.OfLine ∨
      ∃ block name, s.block = some block ∧ line.directive? = some (.beginBlock name) ∧
        e = ⟨block.line, .unclosedBlock block.name⟩ := by
  rcases step_cases s line with hstep | ⟨directive, hdirective, hstep⟩ | ⟨fault, hfault, hstep⟩
  · simp [hstep] at h
  · rw [hstep] at h
    cases directive with
    | declareVendor name number format =>
        obtain ⟨fault, hfault, rfl⟩ := mapError_eq_error_iff.1 h
        exact Or.inl ⟨rfl, ofLine_of_declareVendor hfault⟩
    | beginBlock name =>
        rcases beginBlock_eq_error h with rfl | ⟨block, hblock, rfl⟩
        · exact Or.inl ⟨rfl, fun _ => SourceFault.noConfusion⟩
        · exact Or.inr ⟨block, name, hblock, hdirective, rfl⟩
    | endBlock name =>
        obtain ⟨fault, hfault, rfl⟩ := mapError_eq_error_iff.1 h
        exact Or.inl ⟨rfl, ofLine_of_endBlock hfault⟩
    | declareAttribute name code typeName fourth fifth =>
        obtain ⟨fault, hfault, rfl⟩ := mapError_eq_error_iff.1 h
        exact Or.inl ⟨rfl, ofLine_of_declareAttribute hfault⟩
    | declareValue owner name number =>
        obtain ⟨fault, hfault, rfl⟩ := mapError_eq_error_iff.1 h
        exact Or.inl ⟨rfl, ofLine_of_declareValue hfault⟩
    | unsupported keyword => simp [apply] at h
  · obtain rfl := Except.error.inj (hstep.symm.trans h)
    exact Or.inl ⟨rfl, hfault⟩

/-! ### The block that is open -/

lemma block_of_declareVendor {name number : String} {format : Option String}
    (h : s.declareVendor name number format = .ok s') : s'.block = s.block := by
  obtain ⟨id, -, h⟩ := bind_eq_ok_iff.1 h
  grind

lemma block_of_declareAttribute {name code typeName : String} {fourth fifth : Option String}
    (h : s.declareAttribute name code typeName fourth fifth = .ok s') : s'.block = s.block := by
  obtain ⟨⟨id, vendor, flags⟩, -, h⟩ := bind_eq_ok_iff.1 h
  obtain ⟨code, -, h⟩ := bind_eq_ok_iff.1 h
  grind

lemma block_of_declareValue {owner name number : String}
    (h : s.declareValue owner name number = .ok s') : s'.block = s.block := by
  unfold declareValue at h
  grind

lemma block_of_endBlock {name : String} (h : s.endBlock name = .ok s') : s'.block = none := by
  unfold endBlock at h
  grind

lemma beginBlock_eq_ok {line : Nat} {name : String} (h : s.beginBlock line name = .ok s') :
    s.block = none ∧ ∃ id, s'.block = some ⟨name, id, line⟩ := by
  unfold beginBlock at h
  grind

/-- A block that is open after a line was open before it or is opened by it. -/
lemma block_of_step {line : SourceLine} (h : s.step line = .ok s')
    (hblock : s'.block = some block) :
    s.block = some block ∨
      s.block = none ∧ line.directive? = some (.beginBlock block.name) ∧
        block.line = line.number := by
  rcases step_cases s line with hstep | ⟨directive, hdirective, hstep⟩ | ⟨fault, -, hstep⟩
  · obtain rfl := Except.ok.inj (hstep.symm.trans h)
    exact Or.inl hblock
  · rw [hstep] at h
    cases directive with
    | declareVendor name number format =>
        rw [block_of_declareVendor (mapError_eq_ok_iff.1 h)] at hblock
        exact Or.inl hblock
    | beginBlock name =>
        obtain ⟨hnone, id, hopen⟩ := beginBlock_eq_ok h
        rw [hopen] at hblock
        obtain rfl := Option.some.inj hblock
        exact Or.inr ⟨hnone, hdirective, rfl⟩
    | endBlock name => simp [block_of_endBlock (mapError_eq_ok_iff.1 h)] at hblock
    | declareAttribute name code typeName fourth fifth =>
        rw [block_of_declareAttribute (mapError_eq_ok_iff.1 h)] at hblock
        exact Or.inl hblock
    | declareValue owner name number =>
        rw [block_of_declareValue (mapError_eq_ok_iff.1 h)] at hblock
        exact Or.inl hblock
    | unsupported keyword =>
        obtain rfl := Except.ok.inj h
        exact Or.inl hblock
  · simp [hstep] at h

/-! ### Runs over the first lines -/

variable {lines : List SourceLine} {n : Nat}

lemma run_append (s : Registrar) (before after : List SourceLine) :
    s.run (before ++ after) = s.run before >>= fun t => t.run after := by
  induction before generalizing s with
  | nil => rfl
  | cons line rest ih =>
      rw [List.cons_append, run, run]
      cases s.step line with
      | error e => rfl
      | ok t => exact ih t

lemma run_concat (s : Registrar) (before : List SourceLine) (last : SourceLine) :
    s.run (before ++ [last]) = s.run before >>= fun t => t.step last := by
  rw [run_append]
  congr 1
  funext t
  rw [run]
  cases t.step last <;> rfl

/-- Lines are refused where a state that the lines before have made meets a line at fault. -/
lemma exists_step_of_run_eq_error (h : s.run lines = .error e) :
    ∃ k line t, lines[k]? = some line ∧ s.run (lines.take k) = .ok t ∧ t.step line = .error e := by
  induction lines generalizing s with
  | nil => simp [run] at h
  | cons line rest ih =>
      rw [run] at h
      split at h
      · rename_i u hu
        obtain ⟨k, next, t, hnext, hrun, hstep⟩ := ih h
        refine ⟨k + 1, next, t, hnext, ?_, hstep⟩
        rw [List.take_succ_cons, run, hu]
        exact hrun
      · rename_i hfault
        exact ⟨0, line, s, rfl, rfl, hfault.trans h⟩

/-- A block that is open after some lines was opened by one of them, and has been open since. -/
lemma exists_beginning (hs : s.block = none) (h : s.run lines = .ok s')
    (hblock : s'.block = some block) :
    ∃ k line t, lines[k]? = some line ∧ line.directive? = some (.beginBlock block.name) ∧
      line.number = block.line ∧ s.run (lines.take k) = .ok t ∧ t.block = none ∧
      ∀ m, k < m → m ≤ lines.length → ∃ t, s.run (lines.take m) = .ok t ∧ t.block = some block := by
  -- from the end: the last line has left the block open or has opened it
  induction lines using List.reverseRecOn generalizing s' with
  | nil =>
      obtain rfl := Except.ok.inj h
      simp [hs] at hblock
  | append_singleton before last ih =>
      have hwhole : ∀ m, before.length < m →
          ∃ t, s.run ((before ++ [last]).take m) = .ok t ∧ t.block = some block := by
        intro m hm
        rw [List.take_of_length_le (by simpa using Nat.succ_le_of_lt hm)]
        exact ⟨s', h, hblock⟩
      obtain ⟨u, hbefore, hstep⟩ := bind_eq_ok_iff.1 ((run_concat s before last).symm.trans h)
      rcases block_of_step hstep hblock with hu | ⟨hu, hdirective, hline⟩
      · obtain ⟨k, line, t, hk, hdirective, hline, hrun, ht, hsince⟩ := ih hbefore hu
        have hlt : k < before.length := (List.getElem?_eq_some_iff.1 hk).1
        refine ⟨k, line, t, by rw [List.getElem?_append_left hlt, hk], hdirective, hline, ?_, ht,
          ?_⟩
        · rw [List.take_append_of_le_length (Nat.le_of_lt hlt), hrun]
        · intro m hkm hm
          rcases Nat.lt_or_ge before.length m with hlong | hshort
          · exact hwhole m hlong
          · rw [List.take_append_of_le_length hshort]
            exact hsince m hkm hshort
      · refine ⟨before.length, last, u, by simp, hdirective, hline.symm, ?_, hu, ?_⟩
        · rw [List.take_left, hbefore]
        · intro m hm _
          exact hwhole m hm

end Registrar

/-! ### The first lines of a text -/

/-- The first `n` lines of a text, without the line feed after the last of them. -/
def upToLine (n : Nat) (text : String) : String :=
  String.ofList (firstLines n text.toList)

lemma SourceLine.length_ofText (text : String) : (ofText text).length = lineCount text := by
  simp [ofText, lineCount]

/-- Lines are counted from one. -/
lemma SourceLine.number_eq {text : String} {k : Nat} {line : SourceLine}
    (h : (ofText text)[k]? = some line) : line.number = k + 1 := by
  simp only [ofText, List.getElem?_map, List.getElem?_zipIdx, Option.map_map,
    Option.map_eq_some_iff] at h
  obtain ⟨content, -, rfl⟩ := h
  exact Nat.add_comm 1 k

/-- Numbering the first elements is the first part of numbering all of them. -/
lemma zipIdx_take {α : Type} (l : List α) (n first : Nat) :
    (l.take n).zipIdx first = (l.zipIdx first).take n := by
  apply List.ext_getElem?
  intro i
  rw [List.getElem?_zipIdx, List.getElem?_take, List.getElem?_take, List.getElem?_zipIdx]
  split <;> rfl

lemma SourceLine.ofText_upToLine_newline {n : Nat} {text : String} (hpos : 0 < n)
    (hn : n ≤ lineCount text) : ofText (upToLine n text ++ "\n") = (ofText text).take n := by
  have hnewline : (upToLine n text ++ "\n").toList = firstLines n text.toList ++ ['\n'] := by
    rw [String.toList_append, upToLine, String.toList_ofList]
    rfl
  rw [ofText, ofText, hnewline, lines_firstLines_newline hpos hn, zipIdx_take, List.map_take]

/-- The first lines are read as they are in the text. -/
lemma Registrar.run_upToLine (s : Registrar) {n : Nat} {text : String} (hn : n ≤ lineCount text) :
    s.run (SourceLine.ofText (upToLine n text)) = s.run ((SourceLine.ofText text).take n) := by
  cases n with
  | zero => rfl
  | succ n =>
      -- the lines are those of the text with a line feed, which is not read
      rw [← SourceLine.ofText_upToLine_newline n.succ_pos hn]
      rcases SourceLine.ofText_newline (upToLine (n + 1) text) with hsame | ⟨number, hempty⟩
      · rw [hsame]
      · rw [hempty, run_concat]
        cases s.run (SourceLine.ofText (upToLine (n + 1) text)) <;> rfl

namespace Registry

/-! ### Reading into the registry itself -/

lemma run_bind {α β : Type} (x : Staging α) (f : α → Staging β) (r : Registry) :
    (x >>= f).run.run r =
      match x.run.run r with
      | (.ok a, r') => (f a).run.run r'
      | (.error e, r') => (.error e, r') := by
  rw [ExceptT.run_bind, StateT.run_bind]
  rcases x.run.run r with ⟨_ | _, r'⟩ <;> rfl

lemma run_readLine (r : Registry) (block : Option Block) (line : SourceLine) :
    (readLine block line).run.run r =
      match Registrar.step ⟨r, block⟩ line with
      | .ok s => (.ok s.block, s.registry)
      | .error e => (.error e, r) := by
  change ((liftM (Registrar.step ⟨r, block⟩ line) >>= fun s => do
    set s.registry
    return s.block : Staging (Option Block)).run.run r) = _
  cases Registrar.step ⟨r, block⟩ line <;> rfl

/-- Lines are read into the registry as far as they are in order. -/
lemma run_foldlM_readLine (r : Registry) (block : Option Block) (lines : List SourceLine) :
    (∃ s, Registrar.run ⟨r, block⟩ lines = .ok s ∧
        (lines.foldlM readLine block).run.run r = (.ok s.block, s.registry)) ∨
      ∃ e r', Registrar.run ⟨r, block⟩ lines = .error e ∧
        (lines.foldlM readLine block).run.run r = (.error e, r') := by
  induction lines generalizing r block with
  | nil => exact Or.inl ⟨⟨r, block⟩, rfl, rfl⟩
  | cons line rest ih =>
      rw [List.foldlM_cons, run_bind, run_readLine, Registrar.run]
      cases Registrar.step ⟨r, block⟩ line with
      | ok s => exact ih s.registry s.block
      | error e => exact Or.inr ⟨e, r, rfl, rfl⟩

/-- What is read into the registry is what loading gives, if the text has no fault. -/
lemma run_readText (r : Registry) (text : String) :
    (∃ r', r.load text = .ok r' ∧ (readText text).run.run r = (.ok (), r')) ∨
      ∃ e r', r.load text = .error e ∧ (readText text).run.run r = (.error e, r') := by
  rw [readText, run_bind, load]
  rcases run_foldlM_readLine r none (SourceLine.ofText text) with
    ⟨⟨staged, block⟩, hrun, hfold⟩ | ⟨e, staged, hrun, hfold⟩
  · rw [hrun, hfold]
    cases block with
    | none => exact Or.inl ⟨staged, rfl, rfl⟩
    | some block => exact Or.inr ⟨⟨block.line, .unclosedBlock block.name⟩, staged, rfl, rfl⟩
  · rw [hrun, hfold]
    exact Or.inr ⟨e, staged, rfl, rfl⟩

lemma run_loadText_of_ok {r r' : Registry} {text : String} (h : r.load text = .ok r') :
    (loadText text).run.run r = (.ok (), r') := by
  have hget : (get : Staging Registry).run.run r = (.ok r, r) := rfl
  rcases run_readText r text with ⟨staged, hload, hread⟩ | ⟨e, staged, hload, -⟩
  · obtain rfl := Except.ok.inj (hload.symm.trans h)
    simp only [loadText, run_bind, hget, hread]
    rfl
  · simp [h] at hload

/-- The copy is given up with what has been read into it. -/
lemma run_loadText_of_error {r : Registry} {text : String} {e : SourceError}
    (h : r.load text = .error e) : (loadText text).run.run r = (.error e, r) := by
  have hget : (get : Staging Registry).run.run r = (.ok r, r) := rfl
  rcases run_readText r text with ⟨staged, hload, -⟩ | ⟨e', staged, hload, hread⟩
  · simp [h] at hload
  · obtain rfl := Except.error.inj (hload.symm.trans h)
    simp only [loadText, run_bind, hget, hread]
    rfl

/-- Reading into a copy is all or nothing. -/
lemma unchanged_of_run_loadText {r r' : Registry} {text : String} {e : SourceError}
    (h : (loadText text).run.run r = (.error e, r')) : r' = r ∧ r.load text = .error e := by
  cases hload : r.load text with
  | ok staged =>
      have houtcome : (Except.ok () : Except SourceError Unit) = .error e :=
        congrArg Prod.fst ((run_loadText_of_ok hload).symm.trans h)
      simp at houtcome
  | error fault =>
      have hrun := (run_loadText_of_error hload).symm.trans h
      have houtcome : (Except.error fault : Except SourceError Unit) = .error e :=
        congrArg Prod.fst hrun
      exact ⟨(congrArg Prod.snd hrun).symm, by rw [Except.error.inj houtcome]⟩

/-! ### Where a text is refused -/

/-- All lines of the text are in order, and the block is open behind the last of them. -/
def LeavesOpen (r : Registry) (text : String) (block : Block) : Prop :=
  ∃ s, Registrar.run ⟨r, none⟩ (SourceLine.ofText text) = .ok s ∧ s.block = some block

variable {r r' : Registry} {text : String} {e : SourceError} {block : Block} {n : Nat}

lemma LeavesOpen.load_eq (h : r.LeavesOpen text block) :
    r.load text = .error ⟨block.line, .unclosedBlock block.name⟩ := by
  obtain ⟨s, hrun, hblock⟩ := h
  rw [load, hrun]
  change s.finish = _
  rw [Registrar.finish, hblock]

lemma load_upToLine (r : Registry) (hn : n ≤ lineCount text) :
    r.load (upToLine n text) =
      Registrar.run ⟨r, none⟩ ((SourceLine.ofText text).take n) >>= Registrar.finish := by
  rw [load, Registrar.run_upToLine _ hn]

lemma leavesOpen_upToLine {s : Registrar} (hn : n ≤ lineCount text)
    (hrun : Registrar.run ⟨r, none⟩ ((SourceLine.ofText text).take n) = .ok s)
    (hblock : s.block = some block) : r.LeavesOpen (upToLine n text) block :=
  ⟨s, by rw [Registrar.run_upToLine _ hn, hrun], hblock⟩

/-- First lines that are in order are loaded, unless they leave a block open. -/
lemma load_or_leavesOpen {s : Registrar} (hn : n ≤ lineCount text)
    (hrun : Registrar.run ⟨r, none⟩ ((SourceLine.ofText text).take n) = .ok s) :
    r.load (upToLine n text) = .ok s.registry ∨ ∃ block, r.LeavesOpen (upToLine n text) block := by
  cases hblock : s.block with
  | none =>
      left
      rw [load_upToLine r hn, hrun]
      change s.finish = _
      rw [Registrar.finish, hblock]
  | some block => exact Or.inr ⟨block, leavesOpen_upToLine hn hrun hblock⟩

/-- What is at fault in the first lines is at fault whatever comes after them. -/
lemma load_upToLine_append (hpos : 0 < n) (hn : n ≤ lineCount text)
    (hrun : Registrar.run ⟨r, none⟩ ((SourceLine.ofText text).take n) = .error e) (more : String) :
    r.load (upToLine n text ++ "\n" ++ more) = .error e := by
  rw [load, SourceLine.ofText_append_newline, SourceLine.ofText_upToLine_newline hpos hn,
    Registrar.run_append, hrun]
  rfl

/-- A text is refused for a line that is at fault, or for a block that is open where the text ends
or where another begins. -/
lemma load_eq_error_cases (h : r.load text = .error e) :
    (∃ k line s, (SourceLine.ofText text)[k]? = some line ∧
        Registrar.run ⟨r, none⟩ ((SourceLine.ofText text).take k) = .ok s ∧
        s.step line = .error e ∧ e.line = k + 1 ∧ e.fault.OfLine) ∨
      ∃ last s block, last ≤ lineCount text ∧
        Registrar.run ⟨r, none⟩ ((SourceLine.ofText text).take last) = .ok s ∧
        s.block = some block ∧ e = ⟨block.line, .unclosedBlock block.name⟩ ∧
        (last = lineCount text ∨ ∃ line other, (SourceLine.ofText text)[last]? = some line ∧
          line.directive? = some (.beginBlock other)) := by
  rcases bind_eq_error_iff.1 h with hrun | ⟨s, hrun, hfinish⟩
  · obtain ⟨k, line, s, hline, hbefore, hstep⟩ := Registrar.exists_step_of_run_eq_error hrun
    rcases Registrar.step_eq_error hstep with ⟨hnumber, hfault⟩ | ⟨block, other, hblock, hbegin, he⟩
    · exact Or.inl ⟨k, line, s, hline, hbefore, hstep,
        hnumber.trans (SourceLine.number_eq hline), hfault⟩
    · have hk : k < lineCount text :=
        SourceLine.length_ofText text ▸ (List.getElem?_eq_some_iff.1 hline).1
      exact Or.inr ⟨k, s, block, Nat.le_of_lt hk, hbefore, hblock, he,
        Or.inr ⟨line, other, hline, hbegin⟩⟩
  · rw [Registrar.finish] at hfinish
    split at hfinish
    · simp at hfinish
    · rename_i block hblock
      refine Or.inr ⟨lineCount text, s, block, Nat.le_refl _, ?_, hblock,
        (Except.error.inj hfinish).symm, Or.inl rfl⟩
      rw [← SourceLine.length_ofText, List.take_length, hrun]

/-- The line that begins the block which some first lines leave open: the lines before it are
loaded, and with it the block is open. -/
lemma exists_line_of_open {last : Nat} {s : Registrar} (hlast : last ≤ lineCount text)
    (hrun : Registrar.run ⟨r, none⟩ ((SourceLine.ofText text).take last) = .ok s)
    (hblock : s.block = some block) :
    ∃ k line r₁, block.line = k + 1 ∧ k < last ∧ (SourceLine.ofText text)[k]? = some line ∧
      line.directive? = some (.beginBlock block.name) ∧ r.load (upToLine k text) = .ok r₁ ∧
      ∀ n, k < n → n ≤ last → r.LeavesOpen (upToLine n text) block := by
  obtain ⟨k, line, t, hline, hbegin, hnumber, hbefore, hnone, hsince⟩ :=
    Registrar.exists_beginning rfl hrun hblock
  have hk : k < last := by
    have := (List.getElem?_eq_some_iff.1 hline).1
    rw [List.length_take] at this
    omega
  rw [List.getElem?_take_of_lt hk] at hline
  rw [List.take_take, Nat.min_eq_left (Nat.le_of_lt hk)] at hbefore
  refine ⟨k, line, t.registry, hnumber ▸ SourceLine.number_eq hline, hk, hline, hbegin, ?_, ?_⟩
  · rw [load_upToLine r (by omega), hbefore]
    change t.finish = _
    rw [Registrar.finish, hnone]
  · intro n hkn hn
    have hlength : n ≤ ((SourceLine.ofText text).take last).length := by
      rw [List.length_take, SourceLine.length_ofText]
      omega
    obtain ⟨u, hu, hopen⟩ := hsince n hkn hlength
    rw [List.take_take, Nat.min_eq_left hn] at hu
    exact leavesOpen_upToLine (Nat.le_trans hn hlast) hu hopen

/-- **A text that is refused changes nothing and says where.**  The line of the fault is a line of
the text; the lines before it are loaded on their own, unless they leave a block open, and with that
line they are refused.  If the fault is of the line itself, what comes after the line is of no
account: with any other rest the text is refused for the same fault.  If it is a block that is not
closed, the line is the one that begins the block, and the block is open up to the end of the text
or up to a line that begins another. -/
theorem loadText_fails_at_line (h : (loadText text).run.run r = (.error e, r')) :
    r' = r ∧ 1 ≤ e.line ∧ e.line ≤ lineCount text ∧
      ((∃ r₁, (loadText (upToLine (e.line - 1) text)).run.run r = (.ok (), r₁)) ∨
        ∃ block, r.LeavesOpen (upToLine (e.line - 1) text) block ∧
          (loadText (upToLine (e.line - 1) text)).run.run r =
            (.error ⟨block.line, .unclosedBlock block.name⟩, r)) ∧
      (loadText (upToLine e.line text)).run.run r = (.error e, r) ∧
      ((∀ name, e.fault ≠ .unclosedBlock name) → ∀ more : String,
        (loadText (upToLine e.line text ++ "\n" ++ more)).run.run r = (.error e, r)) ∧
      ∀ name, e.fault = .unclosedBlock name →
        (∃ line, (SourceLine.ofText text)[e.line - 1]? = some line ∧
          line.directive? = some (.beginBlock name)) ∧
        (∃ r₁, (loadText (upToLine (e.line - 1) text)).run.run r = (.ok (), r₁)) ∧
        ∃ last vendor, e.line ≤ last ∧ last ≤ lineCount text ∧
          (∀ n, e.line ≤ n → n ≤ last → r.LeavesOpen (upToLine n text) ⟨name, vendor, e.line⟩) ∧
          (last = lineCount text ∨ ∃ line other, (SourceLine.ofText text)[last]? = some line ∧
            line.directive? = some (.beginBlock other)) := by
  obtain ⟨rfl, hload⟩ := unchanged_of_run_loadText h
  rcases load_eq_error_cases hload with
    ⟨k, line, s, hline, hbefore, hstep, hnumber, hfault⟩ |
    ⟨last, s, block, hlast, hrun, hblock, rfl, hend⟩
  · -- the fault of a line
    have hk : k + 1 ≤ lineCount text :=
      SourceLine.length_ofText text ▸ (List.getElem?_eq_some_iff.1 hline).1
    have hthere : Registrar.run ⟨r', none⟩ ((SourceLine.ofText text).take (k + 1)) = .error e := by
      rw [List.take_add_one, hline, Option.toList_some, Registrar.run_concat, hbefore]
      exact hstep
    rw [hnumber, Nat.add_sub_cancel]
    refine ⟨rfl, Nat.le_add_left 1 k, hk, ?_, ?_, ?_, fun name hname => absurd hname (hfault name)⟩
    · rcases load_or_leavesOpen (Nat.le_of_succ_le hk) hbefore with hok | ⟨block, hopen⟩
      · exact Or.inl ⟨s.registry, run_loadText_of_ok hok⟩
      · exact Or.inr ⟨block, hopen, run_loadText_of_error hopen.load_eq⟩
    · refine run_loadText_of_error ?_
      rw [load_upToLine _ hk, hthere]
      rfl
    · intro _ more
      exact run_loadText_of_error (load_upToLine_append k.succ_pos hk hthere more)
  · -- a block that is not closed
    obtain ⟨k, line, r₁, hnumber, hk, hline, hbegin, hbefore, hopen⟩ :=
      exists_line_of_open hlast hrun hblock
    obtain ⟨name, vendor, number⟩ := block
    obtain rfl : number = k + 1 := hnumber
    have hthere := (hopen (k + 1) k.lt_succ_self hk).load_eq
    have haccepted := run_loadText_of_ok hbefore
    refine ⟨rfl, Nat.le_add_left 1 k, Nat.le_trans hk hlast, Or.inl ⟨r₁, haccepted⟩,
      run_loadText_of_error hthere, fun hfault => absurd rfl (hfault name), ?_⟩
    intro name' hname
    obtain rfl := SourceFault.unclosedBlock.inj hname
    exact ⟨⟨line, hline, hbegin⟩, ⟨r₁, haccepted⟩, last, vendor, hk, hlast, hopen, hend⟩

/-- A registry with its indexes in step refuses what the dictionary without them refuses. -/
lemma loadText_refused_of_dictionary (hr : r.Coherent) (h : r.dictionary.load text = .error e) :
    (loadText text).run.run r = (.error e, r) := by
  refine run_loadText_of_error ?_
  rcases load_cases hr text with ⟨e', hload, hdictionary⟩ | ⟨r₁, -, -, hdictionary⟩
  · obtain rfl := Except.error.inj (hdictionary.symm.trans h)
    exact hload
  · simp [h] at hdictionary

/-- A fault inside a block, whose rest is of no account, and a block that another begins in. -/
theorem loadText_fails_at_line_in_block :
    (∀ more : String, (loadText (
        "VENDOR Example 9\nBEGIN-VENDOR Example\nATTRIBUTE Level 0 integer" ++
          "\n" ++ more)).run.run empty = (.error ⟨3, .reservedCode "Level"⟩, empty)) ∧
      ∃ last vendor, 2 ≤ last ∧ ∀ n, 2 ≤ n → n ≤ last → empty.LeavesOpen
        (upToLine n "VENDOR Example 9\nBEGIN-VENDOR Example\n\nBEGIN-VENDOR Example")
        ⟨"Example", vendor, 2⟩ := by
  have hcode := loadText_fails_at_line (loadText_refused_of_dictionary coherent_empty
    (show Dictionary.load Dictionary.empty
      "VENDOR Example 9\nBEGIN-VENDOR Example\nATTRIBUTE Level 0 integer\nEND-VENDOR Example" =
        .error ⟨3, .reservedCode "Level"⟩ from rfl))
  have hblock := loadText_fails_at_line (loadText_refused_of_dictionary coherent_empty
    (show Dictionary.load Dictionary.empty
      "VENDOR Example 9\nBEGIN-VENDOR Example\n\nBEGIN-VENDOR Example" =
        .error ⟨2, .unclosedBlock "Example"⟩ from rfl))
  obtain ⟨-, -, -, -, -, hrest, -⟩ := hcode
  obtain ⟨-, -, -, -, -, -, hopen⟩ := hblock
  obtain ⟨-, -, last, vendor, hlast, -, hopen, -⟩ := hopen "Example" rfl
  exact ⟨hrest fun _ => SourceFault.noConfusion, last, vendor, hlast, hopen⟩

end Registry

end Radius
