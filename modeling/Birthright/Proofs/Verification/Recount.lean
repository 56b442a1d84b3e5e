import Birthright.Proofs.Verification.Conduct

/-!
# How often a registration's citations are counted

The repository remembers only the last outcome of a registration. Its citations are counted whenever
it passes and had not passed the last time, so that an outage between two passes makes them count
again.

* `citations_eq_rises` — the citations are counted as often as the outcomes change to passed
* `cited_once_iff` — hence no more than once exactly if no pass is lost and found again
-/

namespace Birthright

open scoped List

/-- What was done for a registration when it was processed. -/
structure Handling where
  id : RegistrationId
  exchanges : List Exchange

/-- Processes registrations one after the other. -/
def serve {σ : Type} (w : Collaborators σ) (r : Rules) : List Request → σ → List Handling
  | [], _ => []
  | q :: rest, s =>
    ⟨q.id, (process r q.now q.id).exchanges w s⟩ ::
      serve w r rest ((process r q.now q.id).run w s).state

/-- All that was done for one registration. -/
def doneFor (id : RegistrationId) (hs : List Handling) : List Exchange :=
  (hs.filter (·.id = id)).flatMap Handling.exchanges

/-- How often a number was cited. -/
def citationsOf (nin : Nin) (t : List Exchange) : Nat :=
  (t.filterMap Exchange.cited?).countP (·.1 = nin)

/-- The outcomes that were stored, and whether they passed. -/
def passes (t : List Exchange) : List Bool := (t.filterMap Exchange.stored?).map Outcome.isValid

/-! ## Registrations that cite a first cousin -/

/-- A form on which a first cousin is cited, whose number is "G". -/
def cousinForm : Table String String :=
  [("applicantCitizenshipType", "[\x7b\"value\":\"birth\"\x7d]"), ("dateOfBirth", "2000/01/01"),
   ("guardianNIN", "G"), ("guardianRelationToApplicant", "[\x7b\"value\":\"First Cousin\"\x7d]")]

/-- A memory of registrations that all cite the same first cousin, who was not cited before. -/
def cousins (ids : List String) (limit : UInt32) : Memory :=
  .fresh (ids.map (⟨·⟩, cousinForm)) [] (.ledger ⟨limit, []⟩)

/-- A request for a registration at the beginning of 2024. -/
def requestFor (id : String) : Request where
  id := ⟨id⟩
  now := ⟨⟨2024, 1, 1, by decide, by decide, by decide⟩, 0, 0, 0, 0,
    by decide, by decide, by decide, by decide⟩

/-! ## Rises -/

/-- How often a list changes from false to true. -/
def rises : List Bool → Nat
  | false :: true :: rest => rises rest + 1
  | _ :: rest => rises rest
  | [] => 0

theorem rises_cons (a b : Bool) (l : List Bool) :
    rises (a :: b :: l) = (if a = false ∧ b = true then 1 else 0) + rises (b :: l) := by
  cases a <;> cases b <;> simp [rises]
  omega

/-- So many changes are found in the list one after the other, and no more. -/
theorem replicate_sublist_iff (k : Nat) (l : List Bool) :
    (List.replicate k [false, true]).flatten <+ l ↔ k ≤ rises l := by
  fun_induction rises l generalizing k with
  | case1 rest ih =>
    cases k with
    | zero => simp
    | succ k => simp [List.replicate_succ, ih]
  | case2 b rest hno ih =>
    rw [← ih]
    cases k with
    | zero => simp
    | succ k =>
      -- The first value is a `true`, or a `false` that no `true` follows: it can be left out.
      simp only [List.replicate_succ, List.flatten_cons, List.cons_append, List.nil_append]
      cases b with
      | true => simp [List.sublist_cons_iff]
      | false =>
        cases rest with
        | nil => simp
        | cons c rest =>
          cases c with
          | true => exact absurd rfl (hno rest rfl)
          | false => simp [List.sublist_cons_iff]
  | case3 => cases k <;> simp [List.replicate_succ]

/-! ## One registration after the other -/

theorem doneFor_cons (id : RegistrationId) (h : Handling) (hs : List Handling) :
    doneFor id (h :: hs) = (if h.id = id then h.exchanges else []) ++ doneFor id hs := by
  unfold doneFor
  rw [List.filter_cons]
  split <;> simp_all

theorem citationsOf_append (nin : Nin) (t u : List Exchange) :
    citationsOf nin (t ++ u) = citationsOf nin t + citationsOf nin u := by
  simp [citationsOf, List.filterMap_append, List.countP_append]

theorem passes_append (t u : List Exchange) : passes (t ++ u) = passes t ++ passes u := by
  simp [passes, List.filterMap_append]

/-- Of distinct numbers each one is cited once. -/
theorem countP_citations {cs : List (Nin × String)} {nin : Nin}
    (hdistinct : (cs.map Prod.fst).Nodup) (hnin : nin ∈ cs.map Prod.fst) :
    cs.countP (·.1 = nin) = 1 := by
  have hcount : (cs.map Prod.fst).count nin = 1 := by rw [hdistinct.count, if_pos hnin]
  rw [List.count_eq_countP, List.countP_map] at hcount
  rw [← hcount]
  refine List.countP_congr fun c _ => ?_
  simp

section Serve

variable {plan : Nat → Call → Option Fault} {r : Rules} {m : Memory} {id : RegistrationId}
  {nin : Nin}

/-- **What is done for one request** if only questions may fail: one outcome is stored, and the
citations are counted if it passes and the registration had not passed before. -/
theorem process_failing_questions (hm : m.outages = [])
    (hplan : ∀ k c, c.isQuestion = false → plan k c = none) {q : Request} {k : Nat}
    {t : List Exchange} {s : Memory × Nat}
    (ht : (process r q.now q.id).exchanges (Memory.failing plan) (m, k) = t)
    (hs : ((process r q.now q.id).run (Memory.failing plan) (m, k)).state = s) :
    m.SameSources s.1 ∧ ∃ o, passes t = [Outcome.isValid o] ∧
      t.filterMap Exchange.cited? = (if o.isValid = true ∧ m.hasPassed q.id = false
        then (m.applicant q.id).citations else []) ∧
      ∀ i, s.1.hasPassed i = if q.id = i then o.isValid else m.hasPassed i := by
  have haccounted : Accounted q.id ([] ++ t) := by
    rw [← ht]
    exact (process_ensures q.now).run (Memory.failing plan) (m, k)
  have hunbroken : ¬Broken t := by
    rintro ⟨e, he, hfail, hcall⟩
    rw [← ht] at he
    rw [isQuestion_of_isFailure plan hm hplan _ k he hfail] at hcall
    cases hcall
  obtain ⟨htruthful, hstate⟩ := truthful_exchanges plan (process r q.now q.id) m k
  rw [ht] at htruthful hstate
  rw [hs] at hstate
  obtain ⟨o, hid, hstored, hcited⟩ := haccounted m htruthful hunbroken
  rw [List.nil_append] at hstored hcited
  refine ⟨?_, o, by rw [passes, hstored]; rfl, hcited, fun i => ?_⟩
  · rw [hstate]
    exact m.sources_foldl_after t
  · rw [hstate, Memory.hasPassed_foldl_after, hstored, ← hid]
    rfl

/-- **The citations of a registration are counted** as often as its outcomes change to passed. -/
theorem citations_eq_rises (hm : m.outages = [])
    (hplan : ∀ k c, c.isQuestion = false → plan k c = none)
    (hdistinct : ((m.applicant id).citations.map Prod.fst).Nodup)
    (hnin : nin ∈ (m.applicant id).citations.map Prod.fst) (requests : List Request) (k : Nat) :
    citationsOf nin (doneFor id (serve (Memory.failing plan) r requests (m, k)))
      = rises (m.hasPassed id ::
          passes (doneFor id (serve (Memory.failing plan) r requests (m, k)))) := by
  induction requests generalizing m k with
  | nil => cases m.hasPassed id <;> rfl
  | cons q rest ih =>
    rw [serve]
    generalize ht : (process r q.now q.id).exchanges (Memory.failing plan) (m, k) = t
    generalize hs : ((process r q.now q.id).run (Memory.failing plan) (m, k)).state = s
    obtain ⟨m', k'⟩ := s
    obtain ⟨hsources, o, hpasses, hcited, hpassed⟩ := process_failing_questions hm hplan ht hs
    have happlicant : m'.applicant id = m.applicant id := Memory.applicant_congr hsources.packets id
    have hrest := ih (hsources.outages.trans hm) (by rw [happlicant]; exact hdistinct)
      (by rw [happlicant]; exact hnin) k'
    rw [doneFor_cons]
    by_cases hq : q.id = id
    · -- One more outcome is stored for the registration, after the one it had before.
      subst hq
      rw [if_pos rfl, citationsOf_append, passes_append, hrest, hpasses, hpassed, if_pos rfl,
        List.singleton_append, rises_cons]
      congr 1
      rw [citationsOf, hcited]
      by_cases hnew : m.hasPassed q.id = false ∧ o.isValid = true
      · rw [if_pos hnew, if_pos hnew.symm, countP_citations hdistinct hnin]
      · rw [if_neg hnew, if_neg fun h => hnew h.symm]
        rfl
    · -- Another registration is processed, which changes nothing for this one.
      rw [if_neg hq, List.nil_append, hrest, hpassed, if_neg hq]

/--
**The citations of a registration are counted at most once** exactly if its outcomes do not change
to passed, back, and to passed again.
-/
theorem cited_once_iff (plan : Nat → Call → Option Fault) (r : Rules) (m : Memory)
    (id : RegistrationId) (nin : Nin) (requests : List Request) (hm : m.outages = [])
    (hplan : ∀ k c, c.isQuestion = false → plan k c = none)
    (hdistinct : ((m.applicant id).citations.map Prod.fst).Nodup)
    (hnin : nin ∈ (m.applicant id).citations.map Prod.fst) :
    citationsOf nin (doneFor id (serve (Memory.failing plan) r requests (m, 0))) ≤ 1
      ↔ ¬[false, true, false, true] <+ m.hasPassed id ::
          passes (doneFor id (serve (Memory.failing plan) r requests (m, 0))) := by
  rw [citations_eq_rises hm hplan hdistinct hnin]
  have htwo := replicate_sublist_iff 2 (m.hasPassed id ::
    passes (doneFor id (serve (Memory.failing plan) r requests (m, 0))))
  have hpattern : (List.replicate 2 [false, true]).flatten = [false, true, false, true] := rfl
  rw [hpattern] at htwo
  rw [htwo, Nat.not_le, Nat.lt_succ_iff]

end Serve

theorem cited_once_of_two_passes :
    citationsOf ⟨"G"⟩ (doneFor ⟨"A"⟩ (serve (Memory.failing fun _ _ => none) .standard
      [requestFor "A", requestFor "A"] (cousins ["A"] 5, 0))) ≤ 1 :=
  (cited_once_iff (fun _ _ => none) .standard (cousins ["A"] 5) ⟨"A"⟩ ⟨"G"⟩
    [requestFor "A", requestFor "A"] rfl (fun _ _ _ => rfl) (by decide +kernel)
    (by decide +kernel)).mpr (by decide +kernel)

/-- The packet store fails once, when the registration is processed for the second time. -/
def secondFieldsFail (k : Nat) (c : Call) : Option Fault :=
  if k = 6 ∧ c.isQuestion = true then some .timedOut else none

/-- **The citations of a registration may be counted twice**, although only a question failed. -/
theorem cited_twice_after_outage :
    ¬∀ (packets : Table RegistrationId (Table String String)) (registry : Table Nin Document)
      (l : Ledger) (plan : Nat → Call → Option Fault) (r : Rules) (requests : List Request)
      (id : RegistrationId) (nin : Nin),
      (∀ k c, c.isQuestion = false → plan k c = none) →
      (((Memory.fresh packets registry (.ledger l)).applicant id).citations.map Prod.fst).Nodup →
      nin ∈ ((Memory.fresh packets registry (.ledger l)).applicant id).citations.map Prod.fst →
      citationsOf nin (doneFor id (serve (Memory.failing plan) r requests
        (Memory.fresh packets registry (.ledger l), 0))) ≤ 1 := by
  intro h
  -- The registration passes, then its fields cannot be fetched, then it passes again.
  have hplan : ∀ k c, c.isQuestion = false → secondFieldsFail k c = none :=
    fun k c hc => if_neg fun hfails => absurd hfails.2 (by simp [hc])
  have honce := h [(⟨"A"⟩, cousinForm)] [] ⟨5, []⟩ secondFieldsFail .standard
    [requestFor "A", requestFor "A", requestFor "A"] ⟨"A"⟩ ⟨"G"⟩ hplan (by decide +kernel)
    (by decide +kernel)
  revert honce
  decide +kernel

end Birthright
