import Birthright.Proofs.Json.Spelling

/-!
# Records read back

A record is stored as an object whose members have the names of its parts. Reading looks for the
parts by their names, so it finds what was written as long as the names differ from one another.

* `parts?_record` — the parts of a record are found
* `optional?_ofText?` — what is made of a text that may be absent
* `word?_ofNat` — a word of 32 bits is read back
-/

namespace Birthright.Json

open Written (parts? members? once? required? optional? word? natBelow?)

/-! ## Members by their names -/

theorem members?_obj (members : List (String × Json)) :
    (Json.obj members).written.members? = some (members.map fun m => (m.1, m.2.written)) := by
  show (writtenMembers members).mapM _ = _
  induction members with
  | nil => rfl
  | cons m rest ih => simp [writtenMembers, ih]

/-- The part of a member whose name no other member has is found under this name. -/
theorem once?_cons_self {members : List (String × Written)} {name : String} (w : Written)
    (h : ∀ m ∈ members, m.1 ≠ name) : once? ((name, w) :: members) name = some (some w) := by
  have hnone : members.filter (·.1 = name) = [] := by simpa using h
  rw [once?, List.filter_cons_of_pos (by simp), hnone]

/-- A member with another name does not matter. -/
theorem once?_cons_of_ne {members : List (String × Written)} {m : String × Written} {name : String}
    (h : m.1 ≠ name) : once? (m :: members) name = once? members name := by
  rw [once?, once?, List.filter_cons_of_neg (by simpa using h)]

theorem mapM_congr_of_mem {α β : Type} {f g : α → Option β} {l : List α}
    (h : ∀ a ∈ l, f a = g a) : l.mapM f = l.mapM g := by
  induction l with
  | nil => rfl
  | cons a l ih =>
    rw [List.mapM_cons, List.mapM_cons, h a List.mem_cons_self,
      ih fun b hb => h b (List.mem_cons_of_mem a hb)]

/-- The parts are found under their names, each of which is given to one part. -/
theorem mapM_once?_zip {names : List String} (hnames : names.Nodup) {parts : List Written}
    (hlength : parts.length = names.length) :
    names.mapM (once? (names.zip parts)) = some (parts.map some) := by
  induction names generalizing parts with
  | nil =>
    obtain rfl := List.length_eq_zero_iff.mp hlength
    rfl
  | cons name names ih =>
    obtain ⟨w, parts, rfl⟩ := List.exists_cons_of_length_eq_add_one hlength
    obtain ⟨hnew, hnames⟩ := List.nodup_cons.mp hnames
    have hothers : ∀ m ∈ names.zip parts, m.1 ≠ name := by
      rintro m hm rfl
      exact hnew (List.of_mem_zip hm).1
    -- The first member is passed over in the search for the others, whose names differ from its own.
    have hrest : names.mapM (once? ((name, w) :: names.zip parts)) = some (parts.map some) := by
      rw [← ih hnames (by simpa using hlength)]
      refine mapM_congr_of_mem fun other hother => once?_cons_of_ne ?_
      rintro rfl
      exact hnew hother
    simp [once?_cons_self w hothers, hrest]

/-- **The parts of a record** are found in what was written of them. -/
theorem parts?_record {names : List String} (hnames : names.Nodup) {values : List Json}
    (hlength : values.length = names.length) (least : Nat) :
    (Json.obj (names.zip values)).written.parts? names least
      = some (values.map fun v => some v.written) := by
  have hmembers : (Json.obj (names.zip values)).written.members?
      = some (names.zip (values.map written)) := by
    rw [members?_obj, List.zip_map_right]
    rfl
  have hparts : names.mapM (once? (names.zip (values.map written)))
      = some ((values.map written).map some) := mapM_once?_zip hnames (by simpa using hlength)
  show (Json.obj (names.zip values)).written.members?.bind (fun members =>
    names.mapM (once? members)) = _
  rw [hmembers, Option.bind_some, hparts, List.map_map]
  rfl

/-- A record is written without floating-point numbers if its parts are. -/
theorem floatless_record {names : List String} {values : List Json}
    (h : ∀ v ∈ values, Floatless v) : Floatless (.obj (names.zip values)) :=
  .obj fun _ hm => h _ (List.of_mem_zip hm).2

/-! ## Parts -/

attribute [simp] Floatless.null Floatless.bool Floatless.int Floatless.str

@[simp] theorem floatless_ofNat (n : Nat) : Floatless (ofNat n) := .int n

@[simp] theorem floatless_ofText? (s : Option String) : Floatless (ofText? s) := by
  cases s <;> simp [ofText?]

@[simp] theorem required?_some {α : Type} (read : Written → Option α) (w : Written) :
    required? read (some w) = read w := rfl

@[simp] theorem string?_str (s : String) : (Json.str s).written.string? = some s := rfl

@[simp] theorem bool?_bool (b : Bool) : (Json.bool b).written.bool? = some b := rfl

/-- Where a text may be absent, what is made of it is read back. -/
theorem optional?_ofText? {α : Type} {read : Written → Option α} {make : String → α}
    (h : ∀ s, read (Json.str s).written = some (make s)) (s : Option String) :
    optional? read (some (ofText? s).written) = some (s.map make) := by
  cases s with
  | none => rfl
  | some s => exact congrArg (Option.map some) (h s)

/-- A text that may be absent is read back as it was. -/
@[simp] theorem optional?_string? (s : Option String) :
    optional? Written.string? (some (ofText? s).written) = some s := by
  rw [optional?_ofText? string?_str, Option.map_id']

/-- **A word of 32 bits** is read back from its decimal form. -/
@[simp] theorem word?_ofNat (n : UInt32) : (Json.ofNat n.toNat).written.word? = some n := by
  have hlt : n.toNat < UInt32.size := n.toNat_lt_size
  have hvalue : (Numeral.ofInt (n.toNat : Int)).value? = some (.int (.ofNat n.toNat)) :=
    value?_ofInt (by omega) (by rw [UInt32.size] at hlt; omega)
  have hnat : (Json.ofNat n.toNat).written.natBelow? UInt32.size = some n.toNat := by
    rw [Json.ofNat, written, spelled_decimalInt, natBelow?, hvalue]
    exact if_pos hlt
  rw [word?, hnat, Option.map_some, UInt32.ofNat_toNat]

end Birthright.Json
