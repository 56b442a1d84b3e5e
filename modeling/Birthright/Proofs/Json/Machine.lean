import Birthright.Json.Written

/-!
# The stack machine

The machine that reads structured text is given the tokens of a value one by one. Wherever a value
may stand, it is at the end of these tokens in the place where this value is complete, whatever
arrays and objects are open around it. The induction is on the value; for the further items of an
array and members of an object it is on their list, with those that are done already.

* `foldlM_tokens` — the machine reads the tokens of a value
* `ofTokens?_tokens` — a value is read back from its tokens
-/

namespace Birthright.Json

namespace Written

mutual

/-- The tokens that spell a value. -/
def tokens : Written → List Token
  | .null => [.null]
  | .bool b => [.bool b]
  | .number n => [.number n]
  | .text s => [.text s]
  | .items l => .openArray :: ([.comma].intercalate (itemTokens l) ++ [.closeArray])
  | .members l => .openObject :: ([.comma].intercalate (memberTokens l) ++ [.closeObject])

/-- The tokens that spell the items of an array. -/
def itemTokens : List Written → List (List Token)
  | [] => []
  | w :: rest => tokens w :: itemTokens rest

/-- The tokens that spell the members of an object. -/
def memberTokens : List (Option String × Written) → List (List Token)
  | [] => []
  | (k, w) :: rest => (.text k :: .colon :: tokens w) :: memberTokens rest

end

theorem itemTokens_eq (l : List Written) : itemTokens l = l.map tokens := by
  induction l with
  | nil => rfl
  | cons w rest ih => rw [itemTokens, ih, List.map_cons]

theorem memberTokens_eq (l : List (Option String × Written)) :
    memberTokens l = l.map fun m => .text m.1 :: .colon :: m.2.tokens := by
  induction l with
  | nil => rfl
  | cons m rest ih => rw [memberTokens, ih, List.map_cons]

end Written

/-- A mark is put before each part but the first one. -/
theorem intercalate_cons {α : Type} (mark : α) (part : List α) (rest : List (List α)) :
    [mark].intercalate (part :: rest) = part ++ rest.flatMap (mark :: ·) := by
  induction rest generalizing part with
  | nil => simp [List.intercalate]
  | cons next rest ih =>
    have hstep : [mark].intercalate (part :: next :: rest)
        = part ++ mark :: [mark].intercalate (next :: rest) := by
      simp [List.intercalate, List.intersperse]
    rw [hstep, ih, List.flatMap_cons, List.cons_append]

open Place

/-- The first token of a value does not close anything. -/
theorem Written.exists_tokens_cons (w : Written) :
    ∃ t ts, w.tokens = t :: ts ∧ t ≠ .closeArray := by
  cases w <;> exact ⟨_, _, rfl, nofun⟩

/-- The first item of an array is read like any value. -/
theorem foldlM_itemOrEnd (w : Written) (stack : List Frame) :
    w.tokens.foldlM step? (itemOrEnd stack)
      = w.tokens.foldlM step? (value (.items [] :: stack)) := by
  obtain ⟨t, ts, hts, ht⟩ := w.exists_tokens_cons
  have hstep : step? (itemOrEnd stack) t = step? (value (.items [] :: stack)) t := by
    cases t <;> first | rfl | exact absurd rfl ht
  rw [hts, List.foldlM_cons, List.foldlM_cons, hstep]

/-- The tokens of an array after its first item. -/
def restOfArray (l : List Written) : List Token :=
  l.flatMap (fun w => .comma :: w.tokens) ++ [.closeArray]

/-- The tokens of an object after its first member. -/
def restOfObject (l : List (Option String × Written)) : List Token :=
  l.flatMap (fun m => .comma :: .text m.1 :: .colon :: m.2.tokens) ++ [.closeObject]

theorem restOfArray_cons (w : Written) (l : List Written) :
    restOfArray (w :: l) = .comma :: (w.tokens ++ restOfArray l) := by
  simp [restOfArray]

theorem restOfObject_cons (k : Option String) (w : Written) (l : List (Option String × Written)) :
    restOfObject ((k, w) :: l) = .comma :: .text k :: .colon :: (w.tokens ++ restOfObject l) := by
  simp [restOfObject]

theorem tokens_items (w : Written) (l : List Written) :
    (Written.items (w :: l)).tokens = .openArray :: (w.tokens ++ restOfArray l) := by
  rw [Written.tokens, Written.itemTokens_eq, List.map_cons, intercalate_cons, List.flatMap_map,
    List.append_assoc]
  rfl

theorem tokens_members (k : Option String) (w : Written) (l : List (Option String × Written)) :
    (Written.members ((k, w) :: l)).tokens
      = .openObject :: .text k :: .colon :: (w.tokens ++ restOfObject l) := by
  rw [Written.tokens, Written.memberTokens_eq, List.map_cons, intercalate_cons, List.flatMap_map,
    List.append_assoc]
  rfl

mutual

/-- **The machine reads the tokens of a value** wherever it may stand. -/
theorem foldlM_tokens : ∀ (w : Written) (stack : List Frame),
    w.tokens.foldlM step? (value stack) = some (complete w stack)
  | .null, _ => rfl
  | .bool _, _ => rfl
  | .number _, _ => rfl
  | .text _, _ => rfl
  | .items [], _ => rfl
  | .items (w :: l), stack => by
    have hfirst := foldlM_tokens w (.items [] :: stack)
    have hrest := foldlM_restOfArray l w [] stack
    rw [tokens_items]
    show (w.tokens ++ restOfArray l).foldlM step? (itemOrEnd stack) = _
    rw [List.foldlM_append, foldlM_itemOrEnd, hfirst]
    exact hrest
  | .members [], _ => rfl
  | .members ((k, w) :: l), stack => by
    have hfirst := foldlM_tokens w (.members [] k :: stack)
    have hrest := foldlM_restOfObject l k w [] stack
    rw [tokens_members]
    show (w.tokens ++ restOfObject l).foldlM step? (value (.members [] k :: stack)) = _
    rw [List.foldlM_append, hfirst]
    exact hrest

theorem foldlM_restOfArray : ∀ (l : List Written) (w : Written) (done : List Written)
    (stack : List Frame), (restOfArray l).foldlM step? (complete w (.items done :: stack))
      = some (complete (.items (done.reverse ++ w :: l)) stack)
  | [], w, done, stack => by simp [restOfArray, step?]
  | next :: l, w, done, stack => by
    have hnext := foldlM_tokens next (.items (w :: done) :: stack)
    have hrest := foldlM_restOfArray l next (w :: done) stack
    rw [restOfArray_cons]
    show (next.tokens ++ restOfArray l).foldlM step? (value (.items (w :: done) :: stack)) = _
    rw [List.foldlM_append, hnext]
    simpa using hrest

theorem foldlM_restOfObject : ∀ (l : List (Option String × Written)) (k : Option String)
    (w : Written) (done : List (Option String × Written)) (stack : List Frame),
    (restOfObject l).foldlM step? (complete w (.members done k :: stack))
      = some (complete (.members (done.reverse ++ (k, w) :: l)) stack)
  | [], k, w, done, stack => by simp [restOfObject, step?]
  | (k', next) :: l, k, w, done, stack => by
    have hnext := foldlM_tokens next (.members ((k, w) :: done) k' :: stack)
    have hrest := foldlM_restOfObject l k' next ((k, w) :: done) stack
    rw [restOfObject_cons]
    show (next.tokens ++ restOfObject l).foldlM step?
      (value (.members ((k, w) :: done) k' :: stack)) = _
    rw [List.foldlM_append, hnext]
    simpa using hrest

end

/-- **A value is read back from its tokens.** -/
theorem Written.ofTokens?_tokens (w : Written) : ofTokens? w.tokens = some w := by
  rw [ofTokens?, foldlM_tokens]

end Birthright.Json
