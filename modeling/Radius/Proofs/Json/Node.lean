/-
# Documents read back

A document is read back from its text as it was written, with its members in order; only what numbers
it had is not kept (`parse?_render`).  On the way stand its tokens: laying a document out, at whatever
depth, writes these and space between them (`tokens?_layout`), and they put the document together
again (`foldlM_step_tokens`).
-/
import Radius.Json.Node
import Radius.Proofs.Json.Token

namespace Radius.Json

/-! ### What is read of a document -/

mutual

/-- The tokens that a document is written in. -/
def tokens : Json → List Token
  | null => [.null]
  | bool value => [.bool value]
  | number _ => [.number]
  | string value => [.string (some value)]
  | array [] => [.openArray, .closeArray]
  | array (item :: rest) => .openArray :: (tokens item ++ (itemTokens rest ++ [.closeArray]))
  | object [] => [.openObject, .closeObject]
  | object ((name, value) :: rest) =>
    .openObject :: .string (some name) :: .colon ::
      (tokens value ++ (memberTokens rest ++ [.closeObject]))

/-- The tokens of further items. -/
def itemTokens : List Json → List Token
  | [] => []
  | item :: rest => .comma :: (tokens item ++ itemTokens rest)

/-- The tokens of further members. -/
def memberTokens : List (String × Json) → List Token
  | [] => []
  | (name, value) :: rest =>
    .comma :: .string (some name) :: .colon :: (tokens value ++ memberTokens rest)

end

mutual

/-- A document as a value that is read. -/
def node : Json → Node
  | null => .null
  | bool value => .bool value
  | number _ => .number
  | string value => .string (some value)
  | array items => .array (itemNodes items)
  | object members => .object (memberNodes members)

/-- Items as values that are read. -/
def itemNodes : List Json → List Node
  | [] => []
  | item :: rest => node item :: itemNodes rest

/-- Members as members that are read. -/
def memberNodes : List (String × Json) → List (Option String × Node)
  | [] => []
  | (name, value) :: rest => (some name, node value) :: memberNodes rest

end

/-! ### From text to tokens -/

variable {rest : List Char} {ts : List Token}

lemma isBreak_newline (depth : Nat) (rest : List Char) : IsBreak (newline depth ++ rest) :=
  fun _ hc => Or.inr (Option.some.inj hc).symm

lemma isBreak_layoutItems (depth : Nat) (items : List Json) (hbreak : IsBreak rest) :
    IsBreak (layoutItems depth items ++ rest) := by
  cases items with
  | nil => exact hbreak
  | cons item items => exact fun _ hc => Or.inl (Option.some.inj hc).symm

lemma isBreak_layoutMembers (depth : Nat) (members : List (String × Json))
    (hbreak : IsBreak rest) : IsBreak (layoutMembers depth members ++ rest) := by
  cases members with
  | nil => exact hbreak
  | cons member members => exact fun _ hc => Or.inl (Option.some.inj hc).symm

/-- A bracket on a line of its own. -/
lemma tokens?_newline_cons {c : Char} {token : Token} (depth : Nat) (hc : isSpace c = false)
    (htoken : token? c rest = some (token, rest)) (hrest : tokens? rest = some ts) :
    tokens? (newline depth ++ c :: rest) = some (token :: ts) :=
  (tokens?_newline depth _).trans (tokens?_of_token? hc htoken hrest)

/-- The colon after a name, and the space after it. -/
lemma tokens?_colon (hrest : tokens? rest = some ts) :
    tokens? (':' :: ' ' :: rest) = some (.colon :: ts) :=
  tokens?_of_token? (by decide) rfl ((tokens?_of_isSpace (by decide) rest).trans hrest)

mutual

/-- However deep a document is laid out, its tokens are read. -/
lemma tokens?_layout (depth : Nat) {rest : List Char} {ts : List Token} (hbreak : IsBreak rest)
    (hrest : tokens? rest = some ts) : (document : Json) →
      tokens? (layout depth document ++ rest) = some (tokens document ++ ts)
  | null => tokens?_of_token? (by decide) rfl hrest
  | bool true => tokens?_of_token? (by decide) rfl hrest
  | bool false => tokens?_of_token? (by decide) rfl hrest
  | number value => tokens?_toString value hbreak hrest
  | string value => tokens?_quote value hrest
  | array [] => tokens?_of_token? (by decide) rfl (tokens?_of_token? (by decide) rfl hrest)
  | array (item :: items) => by
      have hclose : tokens? (newline depth ++ ']' :: rest) = some (.closeArray :: ts) :=
        tokens?_newline_cons depth (by decide) rfl hrest
      have hitems := tokens?_layoutItems (depth + 1) (isBreak_newline depth _) hclose items
      have hitem := tokens?_layout (depth + 1)
        (isBreak_layoutItems (depth + 1) items (isBreak_newline depth _)) hitems item
      have hopen := tokens?_of_token? (c := '[') (by decide) rfl
        ((tokens?_newline (depth + 1) _).trans hitem)
      simpa only [layout, tokens, List.cons_append, List.append_assoc, List.nil_append] using hopen
  | object [] => tokens?_of_token? (by decide) rfl (tokens?_of_token? (by decide) rfl hrest)
  | object ((name, value) :: members) => by
      have hclose : tokens? (newline depth ++ '\x7d' :: rest) = some (.closeObject :: ts) :=
        tokens?_newline_cons depth (by decide) rfl hrest
      have hmembers := tokens?_layoutMembers (depth + 1) (isBreak_newline depth _) hclose members
      have hvalue := tokens?_layout (depth + 1)
        (isBreak_layoutMembers (depth + 1) members (isBreak_newline depth _)) hmembers value
      have hname := tokens?_quote name (tokens?_colon hvalue)
      have hopen := tokens?_of_token? (c := '\x7b') (by decide) rfl
        ((tokens?_newline (depth + 1) _).trans hname)
      simpa only [layout, tokens, List.cons_append, List.append_assoc, List.nil_append] using hopen

lemma tokens?_layoutItems (depth : Nat) {rest : List Char} {ts : List Token}
    (hbreak : IsBreak rest) (hrest : tokens? rest = some ts) : (items : List Json) →
      tokens? (layoutItems depth items ++ rest) = some (itemTokens items ++ ts)
  | [] => hrest
  | item :: items => by
      have hitems := tokens?_layoutItems depth hbreak hrest items
      have hitem := tokens?_layout depth (isBreak_layoutItems depth items hbreak) hitems item
      have hcomma := tokens?_of_token? (c := ',') (by decide) rfl
        ((tokens?_newline depth _).trans hitem)
      simpa only [layoutItems, itemTokens, List.cons_append, List.append_assoc] using hcomma

lemma tokens?_layoutMembers (depth : Nat) {rest : List Char} {ts : List Token}
    (hbreak : IsBreak rest) (hrest : tokens? rest = some ts) :
    (members : List (String × Json)) →
      tokens? (layoutMembers depth members ++ rest) = some (memberTokens members ++ ts)
  | [] => hrest
  | (name, value) :: members => by
      have hmembers := tokens?_layoutMembers depth hbreak hrest members
      have hvalue := tokens?_layout depth (isBreak_layoutMembers depth members hbreak) hmembers value
      have hname := tokens?_quote name (tokens?_colon hvalue)
      have hcomma := tokens?_of_token? (c := ',') (by decide) rfl
        ((tokens?_newline depth _).trans hname)
      simpa only [layoutMembers, memberTokens, List.cons_append, List.append_assoc] using hcomma

end

/-! ### From tokens to values -/

namespace Node

/-- A document starts with a token that ends no array. -/
lemma exists_tokens_eq_cons (document : Json) :
    ∃ token ts, document.tokens = token :: ts ∧ token ≠ .closeArray := by
  rcases document with _ | _ | _ | _ | (_ | ⟨item, items⟩) | (_ | ⟨⟨name, value⟩, members⟩)
  all_goals exact ⟨_, _, rfl, by simp⟩

/-- The first item of an array is read like any value. -/
lemma foldlM_step_firstItem (document : Json) (ts : List Token) (stack : List Open) :
    (document.tokens ++ ts).foldlM step (.firstItem, .array [] :: stack) =
      (document.tokens ++ ts).foldlM step (.value, .array [] :: stack) := by
  obtain ⟨token, ts', hcons, hne⟩ := exists_tokens_eq_cons document
  have hstep : step (.firstItem, .array [] :: stack) token = start (.array [] :: stack) token := by
    cases token <;> first | rfl | exact absurd rfl hne
  rw [hcons, List.cons_append, List.foldlM_cons, List.foldlM_cons, hstep]
  rfl

mutual

/-- The tokens of a document put it together, whatever is open around it. -/
lemma foldlM_step_tokens (ts : List Token) (stack : List Open) : (document : Json) →
    (document.tokens ++ ts).foldlM step (.value, stack) =
      ts.foldlM step (.after document.node, stack)
  | .null => rfl
  | .bool _ => rfl
  | .number _ => rfl
  | .string _ => rfl
  | .array [] => rfl
  | .array (item :: items) => by
      have hitem := foldlM_step_tokens (itemTokens items ++ .closeArray :: ts)
        (.array [] :: stack) item
      have hitems := foldlM_step_itemTokens ts stack [] item.node items
      calc ((Json.array (item :: items)).tokens ++ ts).foldlM step (.value, stack)
          = (item.tokens ++ (itemTokens items ++ .closeArray :: ts)).foldlM step
              (.firstItem, .array [] :: stack) := by
            simp only [tokens, List.cons_append, List.append_assoc, List.nil_append]
            rfl
        _ = ts.foldlM step (.after (Json.array (item :: items)).node, stack) := by
            rw [foldlM_step_firstItem, hitem, hitems]
            rfl
  | .object [] => rfl
  | .object ((name, value) :: members) => by
      have hvalue := foldlM_step_tokens (memberTokens members ++ .closeObject :: ts)
        (.object [] (some name) :: stack) value
      have hmembers := foldlM_step_memberTokens ts stack [] (some name) value.node members
      calc ((Json.object ((name, value) :: members)).tokens ++ ts).foldlM step (.value, stack)
          = (value.tokens ++ (memberTokens members ++ .closeObject :: ts)).foldlM step
              (.value, .object [] (some name) :: stack) := by
            simp only [tokens, List.cons_append, List.append_assoc, List.nil_append]
            rfl
        _ = ts.foldlM step (.after (Json.object ((name, value) :: members)).node, stack) := by
            rw [hvalue, hmembers]
            rfl

lemma foldlM_step_itemTokens (ts : List Token) (stack : List Open) (done : List Node)
    (last : Node) : (items : List Json) →
      (itemTokens items ++ .closeArray :: ts).foldlM step (.after last, .array done :: stack) =
        ts.foldlM step (.after (.array ((last :: done).reverse ++ itemNodes items)), stack)
  | [] => by
      rw [itemNodes, List.append_nil]
      rfl
  | item :: items => by
      have hitem := foldlM_step_tokens (itemTokens items ++ .closeArray :: ts)
        (.array (last :: done) :: stack) item
      have hitems := foldlM_step_itemTokens ts stack (last :: done) item.node items
      rw [itemTokens, List.cons_append, List.append_assoc]
      refine (hitem.trans hitems).trans ?_
      rw [List.reverse_cons, List.append_assoc]
      rfl

lemma foldlM_step_memberTokens (ts : List Token) (stack : List Open)
    (done : List (Option String × Node)) (key : Option String) (last : Node) :
    (members : List (String × Json)) →
      (memberTokens members ++ .closeObject :: ts).foldlM step
          (.after last, .object done key :: stack) =
        ts.foldlM step
          (.after (.object (((key, last) :: done).reverse ++ memberNodes members)), stack)
  | [] => by
      rw [memberNodes, List.append_nil]
      rfl
  | (name, value) :: members => by
      have hvalue := foldlM_step_tokens (memberTokens members ++ .closeObject :: ts)
        (.object ((key, last) :: done) (some name) :: stack) value
      have hmembers := foldlM_step_memberTokens ts stack ((key, last) :: done) (some name)
        value.node members
      rw [memberTokens, List.cons_append, List.cons_append, List.cons_append, List.append_assoc]
      refine (hvalue.trans hmembers).trans ?_
      rw [List.reverse_cons, List.append_assoc]
      rfl

end

lemma ofTokens?_tokens (document : Json) : ofTokens? document.tokens = some document.node := by
  have h := foldlM_step_tokens [] [] document
  rw [List.append_nil] at h
  rw [ofTokens?, h]
  rfl

/-- A document is read back from its text. -/
lemma parse?_render (document : Json) : parse? document.render = some document.node := by
  have htokens : tokens? (layout 0 document ++ []) = some (tokens document ++ []) :=
    tokens?_layout 0 (fun _ hc => absurd hc (by simp)) tokens?_nil document
  rw [List.append_nil, List.append_nil] at htokens
  rw [parse?, render, String.toList_ofList, htokens, Option.bind_some, ofTokens?_tokens]

end Node

end Radius.Json
