import Birthright.Applicant
import Birthright.Eligibility.Rules
import Birthright.Proofs.Calendar.InstantText
import Birthright.Proofs.Json.Records
import Birthright.Verification.Audit

/-!
# Stored forms

Applicants, rules, verdicts, lineages, audit events and outcomes are stored as compact texts. What
is stored is read back as it was, whatever its texts are and whichever of its optional parts are
absent; so two values are never stored as the same text.

* `StoredForm.of_read` — it is enough to read back what a text says
* `stored_forms_read_back` — all stored forms
-/

namespace Birthright

open Json (Floatless floatless_record parts?_record optional?_ofText?)
open Json.Written (optional?)

/-- What is written for a value is read back, and no other value is written in the same way. -/
structure StoredForm {α : Type} (write : α → Json) (read? : Json.Written → Option α) : Prop where
  readBack : ∀ a, (Json.Written.ofText? (write a).text).bind read? = some a
  distinct : Function.Injective fun a => (write a).text

/-- It is enough to read back what the text says. -/
theorem StoredForm.of_read {α : Type} {write : α → Json} {read? : Json.Written → Option α}
    (hplain : ∀ a, Floatless (write a)) (hread : ∀ a, read? (write a).written = some a) :
    StoredForm write read? := by
  have hback : ∀ a, (Json.Written.ofText? (write a).text).bind read? = some a := by
    intro a
    rw [(hplain a).ofText?_text, Option.bind_some, hread a]
  refine ⟨hback, fun a b hab => ?_⟩
  have hsame : (write a).text = (write b).text := hab
  have hsome : some a = some b := by rw [← hback a, ← hback b, hsame]
  exact Option.some.inj hsome

/-! ## Parts -/

@[simp] theorem RegistrationId.floatless_toJson (id : RegistrationId) : Floatless id.toJson :=
  .str id.text

@[simp] theorem RegistrationId.ofWritten?_toJson (id : RegistrationId) :
    ofWritten? id.toJson.written = some id := rfl

@[simp] theorem Claim.floatless_toJson (c : Claim) : Floatless c.toJson := .str c.code

@[simp] theorem Claim.ofWritten?_toJson (c : Claim) : ofWritten? c.toJson.written = some c := by
  cases c <;> rfl

@[simp] theorem Reason.floatless_toJson (r : Reason) : Floatless r.toJson := .str r.code

@[simp] theorem Reason.ofWritten?_toJson (r : Reason) : ofWritten? r.toJson.written = some r := by
  cases r <;> rfl

@[simp] theorem Status.floatless_toJson (s : Status) : Floatless s.toJson := .str s.code

@[simp] theorem Status.ofWritten?_toJson (s : Status) : ofWritten? s.toJson.written = some s := by
  cases s <;> rfl

/-- A number that may be absent is read back as it was. -/
@[simp] theorem Nin.optional?_ofWritten? (n : Option Nin) :
    optional? ofWritten? (some (Json.ofText? (n.map text)).written) = some n := by
  have hread : ∀ s, ofWritten? (Json.str s).written = some ⟨s⟩ := fun _ => rfl
  rw [optional?_ofText? hread, Option.map_map]
  cases n <;> rfl

/-! ## Records -/

namespace Lineage

theorem floatless_toJson (l : Lineage) : Floatless l.toJson := floatless_record (by simp)

theorem ofWritten?_toJson (l : Lineage) : ofWritten? l.toJson.written = some l := by
  rw [ofWritten?, toJson, parts?_record]
  case hnames => decide
  case hlength => rfl
  simp

end Lineage

namespace Rules

theorem floatless_toJson (r : Rules) : Floatless r.toJson := floatless_record (by simp)

theorem ofWritten?_toJson (r : Rules) : ofWritten? r.toJson.written = some r := by
  rw [ofWritten?, toJson, parts?_record]
  case hnames => decide
  case hlength => rfl
  simp

end Rules

namespace Applicant

theorem floatless_toJson (a : Applicant) : Floatless a.toJson := floatless_record (by simp)

theorem ofWritten?_toJson (a : Applicant) : ofWritten? a.toJson.written = some a := by
  rw [ofWritten?, toJson, parts?_record]
  case hnames => decide
  case hlength => rfl
  simp

end Applicant

namespace AuditEvent

theorem floatless_toJson (e : AuditEvent) : Floatless e.toJson := floatless_record (by simp)

theorem ofWritten?_toJson (e : AuditEvent) : ofWritten? e.toJson.written = some e := by
  rw [ofWritten?, toJson, parts?_record]
  case hnames => decide
  case hlength => rfl
  simp

end AuditEvent

namespace Verdict

theorem floatless_toJson (v : Verdict) : Floatless v.toJson := floatless_record (by simp)

theorem ofWritten?_toJson (v : Verdict) : ofWritten? v.toJson.written = some v := by
  rw [ofWritten?, toJson, parts?_record]
  case hnames => decide
  case hlength => rfl
  simp

/-- A verdict that may be absent is read back, since no verdict is written as `null`. -/
theorem optional?_ofWritten? (v : Option Verdict) :
    optional? ofWritten? (some ((v.map toJson).getD .null).written) = some v := by
  cases v with
  | none => rfl
  | some v => exact congrArg (Option.map some) v.ofWritten?_toJson

end Verdict

namespace Outcome

theorem floatless_toJson (o : Outcome) : Floatless o.toJson := by
  have hverdict : Floatless ((o.verdict.map Verdict.toJson).getD .null) := by
    cases o.verdict with
    | none => exact .null
    | some v => exact v.floatless_toJson
  exact floatless_record (by simp [hverdict])

theorem ofWritten?_toJson (o : Outcome) : ofWritten? o.toJson.written = some o := by
  rw [ofWritten?, toJson, parts?_record]
  case hnames => decide
  case hlength => rfl
  simp [Verdict.optional?_ofWritten?, Calendar.Instant.ofText?_text]

end Outcome

/-- **All stored forms are read back**, and none of them stands for two values. -/
theorem stored_forms_read_back :
    StoredForm Applicant.toJson Applicant.ofWritten? ∧
    StoredForm Rules.toJson Rules.ofWritten? ∧
    StoredForm Verdict.toJson Verdict.ofWritten? ∧
    StoredForm Lineage.toJson Lineage.ofWritten? ∧
    StoredForm AuditEvent.toJson AuditEvent.ofWritten? ∧
    StoredForm Outcome.toJson Outcome.ofWritten? :=
  ⟨.of_read Applicant.floatless_toJson Applicant.ofWritten?_toJson,
    .of_read Rules.floatless_toJson Rules.ofWritten?_toJson,
    .of_read Verdict.floatless_toJson Verdict.ofWritten?_toJson,
    .of_read Lineage.floatless_toJson Lineage.ofWritten?_toJson,
    .of_read AuditEvent.floatless_toJson AuditEvent.ofWritten?_toJson,
    .of_read Outcome.floatless_toJson Outcome.ofWritten?_toJson⟩

end Birthright
