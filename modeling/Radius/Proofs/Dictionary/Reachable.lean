/-
# Reachable dictionaries

The dictionaries that a program can come to have: it starts from none, from the built-in one or from
a text, and goes on by loading texts and files and by merging.  What loading and merging keep holds
of all of them (`Reachable.loading_induction`); so they are well-formed.
-/
import Radius.Dictionary.Builtin
import Radius.Proofs.Dictionary.Loading

namespace Radius.Dictionary

open Outcome

/-- The dictionaries that loading and merging can make. -/
inductive Reachable : Dictionary → Prop
  | empty : Reachable empty
  | builtin : Reachable builtin
  | parse {text : String} {d : Dictionary} : parse text = .ok d → Reachable d
  | load {text : String} {d d' : Dictionary} :
      Reachable d → d.load text = .ok d' → Reachable d'
  | loadFile {read : String → Except FileFailure String} {path : String} {d d' : Dictionary} :
      Reachable d → d.loadFile read path = .ok d' → Reachable d'
  | merge {d other : Dictionary} : Reachable d → Reachable other → Reachable (d.merge other)

lemma load_of_loadFile {read : String → Except FileFailure String} {path : String}
    {d d' : Dictionary} (h : d.loadFile read path = .ok d') :
    ∃ text, read path = .ok text ∧ d.load text = .ok d' := by
  rw [Dictionary.loadFile] at h
  cases hread : read path with
  | error failure => simp [hread] at h
  | ok text =>
      simp only [hread] at h
      exact ⟨text, rfl, mapError_eq_ok_iff.1 h⟩

/-- Files are loaded where their texts are. -/
lemma loadAll_eq_ok_iff {files : List (String × String)} {d d' : Dictionary} :
    d.loadAll files = .ok d' ↔ (files.map (·.2)).foldlM load d = .ok d' := by
  induction files generalizing d with
  | nil =>
      rw [loadAll, List.map_nil, List.foldlM_nil, List.foldlM_nil]
      simp [pure, Except.pure]
  | cons file rest ih =>
      rw [loadAll, List.foldlM_cons, List.map_cons, List.foldlM_cons, bind_eq_ok_iff,
        bind_eq_ok_iff]
      refine exists_congr fun t => and_congr mapError_eq_ok_iff ih

lemma builtin_eq_of_loadBuiltin {d : Dictionary} (h : loadBuiltin = .ok d) : builtin = d := by
  rw [builtin, h]
  rfl

/-- What loading keeps, loading texts one after the other keeps. -/
lemma foldlM_induction {P : Dictionary → Prop}
    (hload : ∀ {d d' : Dictionary} {text : String}, P d → d.load text = .ok d' → P d')
    {texts : List String} {d d' : Dictionary} (hd : P d) (h : texts.foldlM load d = .ok d') :
    P d' := by
  induction texts generalizing d with
  | nil =>
      obtain rfl := Except.ok.inj h
      exact hd
  | cons text rest ih =>
      rw [List.foldlM_cons] at h
      obtain ⟨t, htext, hrest⟩ := bind_eq_ok_iff.1 h
      exact ih (hload hd htext) hrest

/-- What the empty dictionary has and loading and merging keep, every reachable dictionary has. -/
lemma Reachable.loading_induction {P : Dictionary → Prop} (hempty : P Dictionary.empty)
    (hload : ∀ {d d' : Dictionary} {text : String}, P d → d.load text = .ok d' → P d')
    (hmerge : ∀ {d other : Dictionary}, P d → P other → P (d.merge other)) {d : Dictionary}
    (h : Reachable d) : P d := by
  induction h with
  | empty => exact hempty
  | builtin =>
      cases hresult : loadBuiltin with
      | error e => rwa [Dictionary.builtin, hresult]
      | ok d =>
          rw [builtin_eq_of_loadBuiltin hresult]
          exact foldlM_induction hload hempty (loadAll_eq_ok_iff.1 hresult)
  | parse hparse => exact hload hempty hparse
  | load _ hresult ih => exact hload ih hresult
  | loadFile _ hresult ih =>
      obtain ⟨text, -, hresult⟩ := load_of_loadFile hresult
      exact hload ih hresult
  | merge _ _ ih ihother => exact hmerge ih ihother

theorem Reachable.wellFormed {d : Dictionary} (h : Reachable d) : d.WellFormed :=
  h.loading_induction wellFormed_empty WellFormed.load WellFormed.merge

end Radius.Dictionary
