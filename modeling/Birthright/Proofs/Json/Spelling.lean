import Birthright.Proofs.Json.Integer
import Birthright.Proofs.Json.Machine
import Birthright.Proofs.Json.Quoted

/-!
# The tokens of a compact text

The compact text of a value without floating-point numbers consists of the tokens of this value.
A part of a text spells its tokens whatever comes after it, as long as no numeral goes on; this is
enough to put the parts of arrays and objects together.

* `Spells.separated` — parts with commas between them
* `Floatless.spells` — the compact text of a value
* `Floatless.ofText?_text` — what this text says
-/

namespace Birthright.Json

/-! ## Parts of texts -/

/-- A part of a text consists of these tokens, whatever comes after it. -/
def Spells (l : List Char) (ts : List Token) : Prop :=
  ∀ rest, EndsNumeral rest → tokens? (l ++ rest) = (tokens? rest).map (ts ++ ·)

/-- A character that is a token of its own and ends a numeral before it. -/
structure IsMark (m : Char) (t : Token) : Prop where
  token : ∀ s, token? (m :: s) = some (t, s)
  notSpace : isSpace m = false
  ends : m.isDigit = false ∧ m ∉ ['.', 'e', 'E']

theorem isMark_openArray : IsMark '[' .openArray := ⟨fun _ => rfl, rfl, by decide⟩
theorem isMark_closeArray : IsMark ']' .closeArray := ⟨fun _ => rfl, rfl, by decide⟩
theorem isMark_openObject : IsMark '\x7b' .openObject := ⟨fun _ => rfl, rfl, by decide⟩
theorem isMark_closeObject : IsMark '\x7d' .closeObject := ⟨fun _ => rfl, rfl, by decide⟩
theorem isMark_colon : IsMark ':' .colon := ⟨fun _ => rfl, rfl, by decide⟩
theorem isMark_comma : IsMark ',' .comma := ⟨fun _ => rfl, rfl, by decide⟩

variable {c m : Char} {l l' : List Char} {t : Token} {ts ts' : List Token}

theorem IsMark.endsNumeral (h : IsMark m t) (s : List Char) : EndsNumeral (m :: s) := by
  rintro c ⟨⟩
  exact h.ends

/-- The tokens of a text are its first one and those of the rest. -/
theorem tokens?_cons {s rest : List Char} (hspace : isSpace c = false)
    (h : token? (c :: s) = some (t, rest)) : tokens? (c :: s) = (tokens? rest).map (t :: ·) := by
  have hstart : (c :: s).dropWhile isSpace = c :: s := List.dropWhile_cons_of_neg (by simp [hspace])
  rw [tokens?]
  simp only [hstart, List.isEmpty_cons, Bool.false_eq_true, if_false]
  split
  · next hnone =>
    rw [hstart, h] at hnone
    cases hnone
  · next t' rest' hsome =>
    rw [hstart] at hsome
    obtain ⟨rfl, rfl⟩ := Prod.mk.inj (Option.some.inj (h.symm.trans hsome))
    rfl

namespace Spells

theorem nil : Spells [] [] := by
  intro rest _
  simp

/-- A text that is read as one token spells it. -/
theorem token (hspace : isSpace c = false)
    (h : ∀ rest, EndsNumeral rest → token? (c :: l ++ rest) = some (t, rest)) :
    Spells (c :: l) [t] :=
  fun rest hrest => tokens?_cons hspace (h rest hrest)

/-- A mark goes before any part. -/
theorem mark (hm : IsMark m t) (h : Spells l ts) : Spells (m :: l) (t :: ts) := by
  intro rest hrest
  rw [List.cons_append, tokens?_cons hm.notSpace (hm.token _), h rest hrest, Option.map_map]
  rfl

/-- After any part there may be one that begins with a mark. -/
theorem append_mark (h : Spells l ts) (hm : IsMark m t) (h' : Spells (m :: l') ts') :
    Spells (l ++ m :: l') (ts ++ ts') := by
  intro rest hrest
  have hends : EndsNumeral (m :: l' ++ rest) := hm.endsNumeral (l' ++ rest)
  rw [List.append_assoc, h _ hends, h' rest hrest, Option.map_map]
  simp [Function.comp_def]

/-- The further parts each have a comma before them, up to the mark at the end. -/
theorem further {parts : List (List Char × List Token)} (hparts : ∀ p ∈ parts, Spells p.1 p.2)
    (hm : IsMark m t) (hfirst : Spells l ts) :
    Spells (l ++ (parts.flatMap (fun p => ',' :: p.1) ++ [m]))
      (ts ++ (parts.flatMap (fun p => .comma :: p.2) ++ [t])) := by
  induction parts generalizing l ts with
  | nil => exact hfirst.append_mark hm (nil.mark hm)
  | cons p parts ih =>
    obtain ⟨hp, hparts⟩ := List.forall_mem_cons.mp hparts
    have hnext := ih hparts hp
    have hall := hfirst.append_mark isMark_comma (hnext.mark isMark_comma)
    simpa using hall

/-- **Parts with commas between them** spell their tokens, up to the mark at the end. -/
theorem separated {parts : List (List Char × List Token)} (hparts : ∀ p ∈ parts, Spells p.1 p.2)
    (hm : IsMark m t) : Spells (separated (parts.map (·.1)) ++ [m])
      ([.comma].intercalate (parts.map (·.2)) ++ [t]) := by
  cases parts with
  | nil => exact nil.mark hm
  | cons p parts =>
    obtain ⟨hp, hparts⟩ := List.forall_mem_cons.mp hparts
    have hall := further hparts hm hp
    rw [Json.separated, List.map_cons, List.map_cons, intercalate_cons, intercalate_cons,
      List.flatMap_map, List.flatMap_map, List.append_assoc, List.append_assoc]
    exact hall

end Spells

/-! ## Values -/

/-- The numeral that a text begins with. -/
def Numeral.spelled (s : List Char) : Numeral := ((numeral? s).map (·.1)).getD (.ofInt 0)

mutual

/-- What the compact text of a value says. -/
def written : Json → Written
  | .null => .null
  | .bool b => .bool b
  | .int n => .number (.spelled (Text.decimalInt n))
  | .float x => .number (.spelled (floatLayout.text x))
  | .str s => .text (some s)
  | .arr items => .items (writtenItems items)
  | .obj members => .members (writtenMembers members)

/-- What the compact texts of the items of an array say. -/
def writtenItems : List Json → List Written
  | [] => []
  | v :: rest => written v :: writtenItems rest

/-- What the compact texts of the members of an object say. -/
def writtenMembers : List (String × Json) → List (Option String × Written)
  | [] => []
  | (k, v) :: rest => (some k, written v) :: writtenMembers rest

end

/-- A value without floating-point numbers. -/
inductive Floatless : Json → Prop where
  | null : Floatless .null
  | bool (b : Bool) : Floatless (.bool b)
  | int (n : Int) : Floatless (.int n)
  | str (s : String) : Floatless (.str s)
  | arr {items : List Json} (h : ∀ v ∈ items, Floatless v) : Floatless (.arr items)
  | obj {members : List (String × Json)} (h : ∀ m ∈ members, Floatless m.2) :
      Floatless (.obj members)

/--
A value without floating-point numbers in which arrays and objects are nested at most `levels` deep.
Its integers fit 64 bits with or without a sign, and its members are in the order of their names.
-/
inductive Plain : Nat → Json → Prop where
  | null {levels : Nat} : Plain levels .null
  | bool {levels : Nat} (b : Bool) : Plain levels (.bool b)
  | int {levels : Nat} {n : Int} (hlow : -9223372036854775808 ≤ n)
      (hhigh : n < 18446744073709551616) : Plain levels (.int n)
  | str {levels : Nat} (s : String) : Plain levels (.str s)
  | arr {levels : Nat} {items : List Json} (h : ∀ v ∈ items, Plain levels v) :
      Plain (levels + 1) (.arr items)
  | obj {levels : Nat} {members : List (String × Json)} (hsorted : members.Pairwise (·.1 < ·.1))
      (h : ∀ m ∈ members, Plain levels m.2) : Plain (levels + 1) (.obj members)

theorem spelled_decimalInt (n : Int) : Numeral.spelled (Text.decimalInt n) = .ofInt n := by
  have hnumeral : numeral? (Text.decimalInt n ++ []) = some (.ofInt n, []) :=
    numeral?_decimalInt n nofun
  rw [List.append_nil] at hnumeral
  rw [Numeral.spelled, hnumeral]
  rfl

theorem spells_quotedText (s : String) : Spells (quotedText s) [.text (some s)] :=
  .token rfl fun rest _ => token?_quotedText s rest

theorem spells_decimalInt (n : Int) : Spells (Text.decimalInt n) [.number (.ofInt n)] := by
  obtain ⟨c, s, hs, hc⟩ := exists_decimalInt_cons n
  have hspace : isSpace c = false := by
    refine Bool.eq_false_iff.mpr fun hspace => ?_
    simp only [isSpace, Bool.or_eq_true, decide_eq_true_eq] at hspace
    rcases hspace with ((rfl | rfl) | rfl) | rfl <;> exact absurd hc (by decide)
  rw [hs]
  refine .token hspace fun rest hrest => ?_
  rw [← hs]
  exact token?_decimalInt n hrest

theorem compactItems_eq (items : List Json) : compactItems items = items.map compact := by
  induction items with
  | nil => rfl
  | cons v rest ih => rw [compactItems, ih, List.map_cons]

theorem compactMembers_eq (members : List (String × Json)) :
    compactMembers members = members.map fun m => quotedText m.1 ++ ':' :: compact m.2 := by
  induction members with
  | nil => rfl
  | cons m rest ih => rw [compactMembers, ih, List.map_cons]

theorem writtenItems_eq (items : List Json) : writtenItems items = items.map written := by
  induction items with
  | nil => rfl
  | cons v rest ih => rw [writtenItems, ih, List.map_cons]

theorem writtenMembers_eq (members : List (String × Json)) :
    writtenMembers members = members.map fun m => (some m.1, m.2.written) := by
  induction members with
  | nil => rfl
  | cons m rest ih => rw [writtenMembers, ih, List.map_cons]

variable {levels : Nat} {v : Json}

/-- **The compact text of a value** spells its tokens. -/
theorem Floatless.spells (h : Floatless v) : Spells (compact v) v.written.tokens := by
  induction h with
  | null => exact .token rfl fun rest _ => rfl
  | bool b =>
    cases b with
    | true => exact .token rfl fun rest _ => rfl
    | false => exact .token rfl fun rest _ => rfl
  | int n =>
    rw [written, spelled_decimalInt]
    exact spells_decimalInt n
  | str s => exact spells_quotedText s
  | @arr items h ih =>
    have hparts : ∀ p ∈ items.map fun v => (compact v, v.written.tokens), Spells p.1 p.2 := by
      intro p hp
      obtain ⟨v, hv, rfl⟩ := List.mem_map.mp hp
      exact ih v hv
    have hall := (Spells.separated hparts isMark_closeArray).mark isMark_openArray
    rw [compact, written, Written.tokens, compactItems_eq, Written.itemTokens_eq, writtenItems_eq]
    simpa [Function.comp_def] using hall
  | @obj members h ih =>
    have hparts : ∀ p ∈ members.map fun m => (quotedText m.1 ++ ':' :: compact m.2,
        .text (some m.1) :: .colon :: m.2.written.tokens), Spells p.1 p.2 := by
      intro p hp
      obtain ⟨m, hm, rfl⟩ := List.mem_map.mp hp
      exact (spells_quotedText m.1).append_mark isMark_colon ((ih m hm).mark isMark_colon)
    have hall := (Spells.separated hparts isMark_closeObject).mark isMark_openObject
    rw [compact, written, Written.tokens, compactMembers_eq, Written.memberTokens_eq,
      writtenMembers_eq]
    simpa [Function.comp_def] using hall

/-- **The compact text of a value says what the value is.** -/
theorem Floatless.ofText?_text (h : Floatless v) : Written.ofText? v.text = some v.written := by
  have htokens := h.spells [] nofun
  have hnil : tokens? [] = some [] := by simp [tokens?]
  rw [List.append_nil, hnil, Option.map_some, List.append_nil] at htokens
  rw [Written.ofText?, text, String.toList_ofList, htokens]
  exact v.written.ofTokens?_tokens

theorem Plain.floatless (h : Plain levels v) : Floatless v := by
  induction h with
  | null => exact .null
  | bool b => exact .bool b
  | int hlow hhigh => exact .int _
  | str s => exact .str s
  | arr h ih => exact .arr ih
  | obj hsorted h ih => exact .obj ih

end Birthright.Json
