import Mathlib.Data.List.DropRight
import Birthright.Proofs.Collaborator.Conduct

/-!
# Runs that differ by the numbers of persons

Two inquiries are alike if they make the same calls and note the same events, but for the numbers
of persons, of which one may stand in the place of another that ends with the same four characters,
and but for the time at which outcomes were processed. Collaborators that answer alike calls alike
cannot tell such inquiries apart.

* `Text.trim_trim`, `Nin.proper_of_ofText?` — the numbers that a form can cite
* `Renaming` — other numbers with the same ending
* `Alike.bind` — inquiries that go on are alike if their parts are
* `Alike.run` — alike inquiries come to the same, whatever the numbers are
-/

namespace Birthright

/-! ## Numbers -/

/-- To trim a text once more changes nothing. -/
theorem Text.trim_trim (s : List Char) : trim (trim s) = trim s := by
  have hright : trim s = (skipBlanks s).rdropWhile isBlank := rfl
  have hleft : skipBlanks (trim s) = trim s := by
    -- What is left begins with the first character that is not blank, if anything is left.
    refine List.dropWhile_eq_self_iff.mpr fun hpos => ?_
    have hbegins : trim s <+: skipBlanks s := List.rdropWhile_prefix isBlank _
    rw [hbegins.getElem hpos]
    exact List.dropWhile_get_zero_not isBlank s (hpos.trans_le hbegins.length_le)
  rw [trim, hleft]
  show (trim s).rdropWhile isBlank = trim s
  rw [hright, List.rdropWhile_idempotent]

namespace Nin

/-- The last four characters of a number, or all if there are fewer. -/
def ending (n : Nin) : List Char := n.text.toList.drop (n.text.toList.length - 4)

/-- A number that is neither blank nor has blanks around it. -/
def Proper (n : Nin) : Prop := n.text.toList ≠ [] ∧ Text.trim n.text.toList = n.text.toList

/-- Whether a number is proper can be decided. -/
instance (n : Nin) : Decidable n.Proper := inferInstanceAs (Decidable (_ ∧ _))

/-- All numbers that are read from a text are proper. -/
theorem proper_of_ofText? {raw : String} {n : Nin} (h : ofText? raw = some n) : n.Proper := by
  unfold ofText? at h
  split at h
  · cases h
  · next hne =>
    cases h
    rw [Proper, String.toList_ofList, Text.trim_trim]
    exact ⟨hne, rfl⟩

end Nin

/-- Other numbers in the place of proper ones: no two become one, and their endings stay. -/
structure Renaming where
  number : Nin → Nin
  proper : ∀ n : Nin, n.Proper → (number n).Proper
  injective : ∀ m n : Nin, m.Proper → n.Proper → number m = number n → m = n
  ending : ∀ n : Nin, n.Proper → (number n).ending = n.ending

/-- A renaming is applied to a number. -/
instance : CoeFun Renaming fun _ => Nin → Nin := ⟨Renaming.number⟩

/-- All numbers stay as they are. -/
def Renaming.refl : Renaming := ⟨id, fun _ h => h, fun _ _ _ _ h => h, fun _ _ => rfl⟩

/-- What is shown of a number is shown of the other one. -/
theorem Renaming.masked (ρ : Renaming) {n : Nin} (hn : n.Proper) : (ρ n).masked = n.masked := by
  show String.ofList ("****".toList ++ (ρ n).ending) = String.ofList ("****".toList ++ n.ending)
  rw [ρ.ending n hn]

/-! ## Forms, outcomes and calls -/

/-- A field of the form that holds a number. -/
def FormField.isNumber : FormField → Bool
  | .fatherNin | .motherNin | .guardianNin => true
  | .tribe | .citizenshipType | .dateOfBirth | .clan | .fatherTribe | .fatherClan | .motherTribe
  | .motherClan | .guardianRelationship | .guardianTribe | .guardianClan => false

/-- The outcome with another time. -/
def Outcome.dated (o : Outcome) (now : Calendar.Instant) : Outcome := { o with processedAt := now }

/-- The outcomes are the same but for the time. -/
def Outcome.Alike (o o' : Outcome) : Prop := o = o'.dated o.processedAt

/-- Alike outcomes are of the same registration. -/
theorem Outcome.Alike.registrationId {o o' : Outcome} (h : o.Alike o') :
    o.registrationId = o'.registrationId := by
  rw [h]
  rfl

namespace Renaming

/-- Of the fields of the two forms only the numbers differ. -/
structure AlikeForms (ρ : Renaming) (fields fields' : Table String String) : Prop where
  numbers : ∀ f : FormField, f.isNumber = true →
    (Table.get? fields' f.name).bind Nin.ofText? = ((Table.get? fields f.name).bind Nin.ofText?).map ρ
  others : ∀ f : FormField, f.isNumber = false →
    Table.get? fields' f.name = Table.get? fields f.name

theorem AlikeForms.refl (fields : Table String String) :
    Renaming.refl.AlikeForms fields fields where
  numbers _ _ := by
    show _ = Option.map id _
    rw [Option.map_id]
    rfl
  others _ _ := rfl

/-- The calls are the same but for the numbers, and for the times of outcomes. -/
inductive AlikeCalls (ρ : Renaming) : Call → Call → Prop where
  | fields (id : RegistrationId) :
      AlikeCalls ρ (.fields id FormField.names) (.fields id FormField.names)
  | document {n : Nin} (hn : n.Proper) : AlikeCalls ρ (.document n) (.document (ρ n))
  | isOverused {n : Nin} (hn : n.Proper) (role : String) :
      AlikeCalls ρ (.isOverused n role) (.isOverused (ρ n) role)
  | cite {n : Nin} (hn : n.Proper) (role : String) :
      AlikeCalls ρ (.cite n role) (.cite (ρ n) role)
  | fetch (id : RegistrationId) : AlikeCalls ρ (.fetch id) (.fetch id)
  | store {o o' : Outcome} (ho : o.Alike o') : AlikeCalls ρ (.store o) (.store o')
  | publish (e : AuditEvent) : AlikeCalls ρ (.publish e) (.publish e)

/-- Alike calls were answered alike: the answers are the same but for numbers and times. -/
inductive AlikeExchanges (ρ : Renaming) : Exchange → Exchange → Prop where
  | form {fields fields' : Table String String} (id : RegistrationId)
      (hfields : ρ.AlikeForms fields fields') :
      AlikeExchanges ρ ⟨.fields id FormField.names, .ok fields⟩
        ⟨.fields id FormField.names, .ok fields'⟩
  | noForm (id : RegistrationId) (e : FieldFailure) :
      AlikeExchanges ρ ⟨.fields id FormField.names, .error e⟩
        ⟨.fields id FormField.names, .error e⟩
  | document {n : Nin} (hn : n.Proper) (answer : Except LookupFailure (Option Document)) :
      AlikeExchanges ρ ⟨.document n, answer⟩ ⟨.document (ρ n), answer⟩
  | isOverused {n : Nin} (hn : n.Proper) (role : String) (answer : Except UsageFailure Bool) :
      AlikeExchanges ρ ⟨.isOverused n role, answer⟩ ⟨.isOverused (ρ n) role, answer⟩
  | cite {n : Nin} (hn : n.Proper) (role : String) (answer : Except UsageFailure Unit) :
      AlikeExchanges ρ ⟨.cite n role, answer⟩ ⟨.cite (ρ n) role, answer⟩
  | fetch {found found' : Option Outcome} (id : RegistrationId)
      (hfound : Option.Rel Outcome.Alike found found') :
      AlikeExchanges ρ ⟨.fetch id, .ok found⟩ ⟨.fetch id, .ok found'⟩
  | notFetched (id : RegistrationId) (e : RecordFailure) :
      AlikeExchanges ρ ⟨.fetch id, .error e⟩ ⟨.fetch id, .error e⟩
  | store {o o' : Outcome} (ho : o.Alike o') (answer : Except RecordFailure Unit) :
      AlikeExchanges ρ ⟨.store o, answer⟩ ⟨.store o', answer⟩
  | publish (e : AuditEvent) (answer : Except AuditFailure Unit) :
      AlikeExchanges ρ ⟨.publish e, answer⟩ ⟨.publish e, answer⟩

end Renaming

/-! ## Inquiries -/

namespace Inquiry

variable {ρ : Renaming} {α α' β β' : Type} {rel : α → α' → Prop} {rel' : β → β' → Prop}

/--
The inquiries note the same events and make alike calls as long as the answers are alike, and in the
end their results are related.
-/
inductive Alike (ρ : Renaming) (rel : α → α' → Prop) : Inquiry α → Inquiry α' → Prop where
  | done {a : α} {a' : α'} (h : rel a a') : Alike ρ rel (.done a) (.done a')
  | note (e : Event) {x : Inquiry α} {x' : Inquiry α'} (h : Alike ρ rel x x') :
      Alike ρ rel (.note e x) (.note e x')
  | ask {c c' : Call} {next : c.Answer → Inquiry α} {next' : c'.Answer → Inquiry α'}
      (hcall : ρ.AlikeCalls c c')
      (hnext : ∀ answer answer', ρ.AlikeExchanges ⟨c, answer⟩ ⟨c', answer'⟩ →
        Alike ρ rel (next answer) (next' answer')) :
      Alike ρ rel (.ask c next) (.ask c' next')

theorem Alike.pure {a : α} {a' : α'} (h : rel a a') :
    (pure a : Inquiry α).Alike ρ rel (pure a' : Inquiry α') := .done h

/-- **Inquiries that go on are alike** if they begin alike and go on alike. -/
theorem Alike.bind {x : Inquiry α} {x' : Inquiry α'} {f : α → Inquiry β} {f' : α' → Inquiry β'}
    (h : x.Alike ρ rel x') (hf : ∀ a a', rel a a' → (f a).Alike ρ rel' (f' a')) :
    (x >>= f).Alike ρ rel' (x' >>= f') := by
  show (x.bind f).Alike ρ rel' (x'.bind f')
  induction h with
  | done h => exact hf _ _ h
  | note e _ ih => exact .note e ih
  | ask hcall _ ih => exact .ask hcall ih

theorem Alike.notes_bind {es : List Event} {f : Unit → Inquiry α} {f' : Unit → Inquiry α'}
    (h : (f ()).Alike ρ rel (f' ())) : (notes es >>= f).Alike ρ rel (notes es >>= f') := by
  induction es with
  | nil => exact h
  | cons e rest ih => exact .note e ih

/-- What is noted with a result is the same in both. -/
theorem Alike.noted (r : List Event × α) : (noted r).Alike ρ Eq (noted r) :=
  .notes_bind (.pure rfl)

section Calls

variable {n : Nin}

theorem Alike.fields {id : RegistrationId}
    {f : Except FieldFailure (Table String String) → Inquiry α}
    {f' : Except FieldFailure (Table String String) → Inquiry α'}
    (herror : ∀ e, (f (.error e)).Alike ρ rel (f' (.error e)))
    (hok : ∀ fields fields', ρ.AlikeForms fields fields' →
      (f (.ok fields)).Alike ρ rel (f' (.ok fields'))) :
    (Inquiry.fields id FormField.names >>= f).Alike ρ rel
      (Inquiry.fields id FormField.names >>= f') := by
  refine .ask (.fields id) fun answer answer' h => ?_
  cases h with
  | form _ hfields => exact hok _ _ hfields
  | noForm _ e => exact herror e

theorem Alike.document {f : Except LookupFailure (Option Document) → Inquiry α}
    {f' : Except LookupFailure (Option Document) → Inquiry α'} (hn : n.Proper)
    (h : ∀ answer, (f answer).Alike ρ rel (f' answer)) :
    (Inquiry.document n >>= f).Alike ρ rel (Inquiry.document (ρ n) >>= f') := by
  refine .ask (.document hn) fun answer answer' hanswers => ?_
  cases hanswers
  exact h answer

theorem Alike.isOverused {role : String} {f : Except UsageFailure Bool → Inquiry α}
    {f' : Except UsageFailure Bool → Inquiry α'} (hn : n.Proper)
    (h : ∀ answer, (f answer).Alike ρ rel (f' answer)) :
    (Inquiry.isOverused n role >>= f).Alike ρ rel (Inquiry.isOverused (ρ n) role >>= f') := by
  refine .ask (.isOverused hn role) fun answer answer' hanswers => ?_
  cases hanswers
  exact h answer

theorem Alike.cite {role : String} {f : Except UsageFailure Unit → Inquiry α}
    {f' : Except UsageFailure Unit → Inquiry α'} (hn : n.Proper)
    (h : ∀ answer, (f answer).Alike ρ rel (f' answer)) :
    (Inquiry.cite n role >>= f).Alike ρ rel (Inquiry.cite (ρ n) role >>= f') := by
  refine .ask (.cite hn role) fun answer answer' hanswers => ?_
  cases hanswers
  exact h answer

theorem Alike.fetch {id : RegistrationId} {f : Except RecordFailure (Option Outcome) → Inquiry α}
    {f' : Except RecordFailure (Option Outcome) → Inquiry α'}
    (herror : ∀ e, (f (.error e)).Alike ρ rel (f' (.error e)))
    (hok : ∀ found found', Option.Rel Outcome.Alike found found' →
      (f (.ok found)).Alike ρ rel (f' (.ok found'))) :
    (Inquiry.fetch id >>= f).Alike ρ rel (Inquiry.fetch id >>= f') := by
  refine .ask (.fetch id) fun answer answer' h => ?_
  cases h with
  | fetch _ hfound => exact hok _ _ hfound
  | notFetched _ e => exact herror e

theorem Alike.store {o o' : Outcome} {f : Except RecordFailure Unit → Inquiry α}
    {f' : Except RecordFailure Unit → Inquiry α'} (ho : o.Alike o')
    (h : ∀ answer, (f answer).Alike ρ rel (f' answer)) :
    (Inquiry.store o >>= f).Alike ρ rel (Inquiry.store o' >>= f') := by
  refine .ask (.store ho) fun answer answer' hanswers => ?_
  cases hanswers
  exact h answer

theorem Alike.publish {e : AuditEvent} {f : Except AuditFailure Unit → Inquiry α}
    {f' : Except AuditFailure Unit → Inquiry α'}
    (h : ∀ answer, (f answer).Alike ρ rel (f' answer)) :
    (Inquiry.publish e >>= f).Alike ρ rel (Inquiry.publish e >>= f') := by
  refine .ask (.publish e) fun answer answer' hanswers => ?_
  cases hanswers
  exact h answer

end Calls

end Inquiry

/-! ## Runs -/

section Runs

variable {σ σ' α α' : Type}

/--
The collaborators answer alike calls alike, and note the same, in states that are related; and their
states stay related.
-/
structure Renaming.Simulates (ρ : Renaming) (w : Collaborators σ) (w' : Collaborators σ')
    (R : σ → σ' → Prop) : Prop where
  answers : ∀ c c' s s', ρ.AlikeCalls c c' → R s s' →
    ρ.AlikeExchanges ⟨c, (w.answer c s).1⟩ ⟨c', (w'.answer c' s').1⟩
  events : ∀ c c' s s', ρ.AlikeCalls c c' → R s s' →
    (w.answer c s).2.1 = (w'.answer c' s').2.1
  states : ∀ c c' s s', ρ.AlikeCalls c c' → R s s' → R (w.answer c s).2.2 (w'.answer c' s').2.2

/-- What two runs have in common that differ by the numbers only: in their events nothing differs. -/
structure Run.Alike (ρ : Renaming) (rel : α → α' → Prop) (R : σ → σ' → Prop) (run : Run σ α)
    (run' : Run σ' α') : Prop where
  result : rel run.result run'.result
  events : run.events = run'.events
  calls : List.Forall₂ ρ.AlikeCalls run.calls run'.calls
  state : R run.state run'.state

variable {ρ : Renaming} {rel : α → α' → Prop} {R : σ → σ' → Prop} {w : Collaborators σ}
  {w' : Collaborators σ'}

/-- A run that begins with a call has the events of the answer first. -/
theorem Inquiry.events_run_ask (w : Collaborators σ) (c : Call) (next : c.Answer → Inquiry α)
    (s : σ) : ((Inquiry.ask c next).run w s).events
      = (w.answer c s).2.1 ++ ((next (w.answer c s).1).run w (w.answer c s).2.2).events := by
  simp [Inquiry.run, Run.after, Run.events, List.filterMap_append, List.filterMap_map]

/-- **Alike inquiries have alike runs** with collaborators that answer alike calls alike. -/
theorem Inquiry.Alike.run {x : Inquiry α} {x' : Inquiry α'} (h : x.Alike ρ rel x')
    (hsim : ρ.Simulates w w' R) {s : σ} {s' : σ'} (hs : R s s') :
    (x.run w s).Alike ρ rel R (x'.run w' s') := by
  induction h generalizing s s' with
  | done h => exact ⟨h, rfl, .nil, hs⟩
  | note e _ ih =>
    obtain ⟨hresult, hevents, hcalls, hstate⟩ := ih hs
    refine ⟨hresult, ?_, hcalls, hstate⟩
    exact congrArg (e :: ·) hevents
  | @ask c c' next next' hcall _ ih =>
    obtain ⟨hresult, hevents, hcalls, hstate⟩ :=
      ih _ _ (hsim.answers c c' s s' hcall hs) (hsim.states c c' s s' hcall hs)
    refine ⟨hresult, ?_, ?_, hstate⟩
    · rw [Inquiry.events_run_ask, Inquiry.events_run_ask, hsim.events c c' s s' hcall hs, hevents]
    · rw [Inquiry.calls_run, Inquiry.calls_run] at hcalls ⊢
      exact .cons hcall hcalls

end Runs

end Birthright
