import Birthright.Proofs.Collaborator.Ledger
import Birthright.Proofs.Verification.Conduct
import Mathlib.Data.Finset.Card
import Mathlib.Logic.Relation

/-!
# Registrations under way

Several registrations are processed at the same time, or one after the other. A `Pool` holds them
all with the memory that they share, and in a step one of them makes its next call. Any call may
fail, and the same registration may be under way more than once.

Between the check that clears a number and the citation of it other calls may come. How many
registrations pass on the strength of a number depends on the limit and on how many of them stand
there at once.

* `Sound.step`, `Counted.step`, `Tallied.step` — what every step preserves
* `Kept.step` — how many may still pass, while no more wait than before
* `card_passed_le` — the bound, for every course of steps
-/

namespace Birthright

/-- The form of a registration cites a number. -/
def Memory.Cites (m : Memory) (id : RegistrationId) (n : Nin) : Prop :=
  n ∈ (m.applicant id).citations.map Prod.fst

namespace Ledger

/-- How many registrations may pass on the strength of a number of which so many wait at once. -/
def room (l : Ledger) (n : Nin) (waiting : Nat) : Nat :=
  if l.count n ≤ l.limit then l.limit.toNat + waiting - (l.count n).toNat else 0

end Ledger

/-- A registration that is processed: what is still to be done, and what was done. -/
structure Case where
  id : RegistrationId
  rest : Inquiry (Except ServiceFailure Outcome)
  past : List Exchange

namespace Case

/-- The case that a request begins. -/
def start (r : Rules) (q : Request) : Case := ⟨q.id, process r q.now q.id, []⟩

/-- The processing has come to its end. -/
def isOver (c : Case) : Bool := c.rest.next?.isNone

/-- The number was checked last and is not overused. -/
def isVouchedBy (n : Nin) (c : Case) : Bool := vouching? c.past = some n

/-- A citation of the number was counted. -/
def hasCited (n : Nin) (c : Case) : Bool :=
  (c.past.filterMap Exchange.cited?).any fun citation => citation.1 = n

/-- An outcome that passes was stored. -/
def hasPassed (c : Case) : Bool := (c.past.filterMap Exchange.stored?).any Outcome.isValid

/-- The case stands between the check that cleared the number and its citation. -/
def isPendingOn (n : Nin) (c : Case) : Bool := c.isVouchedBy n && !c.hasCited n && !c.isOver

/--
The case passes on the strength of the number, or may still do so; what had passed in the beginning
is left out.
-/
def stands (m₀ : Memory) (n : Nin) (c : Case) : Bool :=
  !m₀.hasPassed c.id && c.isVouchedBy n && (!c.isOver || c.hasPassed)

end Case

/-- Registrations that are processed, and the memory that they share. -/
structure Pool where
  cases : List Case
  memory : Memory

namespace Pool

/-- Requests before the first call is made. -/
def start (r : Rules) (requests : List Request) (m : Memory) : Pool :=
  ⟨requests.map (Case.start r), m⟩

/-- The registrations of the cases with a property. -/
def ids (p : Pool) (holds : Case → Bool) : Finset RegistrationId :=
  ((p.cases.filter holds).map Case.id).toFinset

/-- How many cases stand between the check that cleared the number and its citation. -/
def pendingOn (n : Nin) (p : Pool) : Nat := p.cases.countP (Case.isPendingOn n)

/--
The registrations that pass on the strength of a number; those that had passed before, in the
memory of the beginning, are left out.
-/
def passedBy (m₀ : Memory) (n : Nin) (p : Pool) : Finset RegistrationId :=
  p.ids fun c => !m₀.hasPassed c.id && c.isVouchedBy n && c.hasPassed

/-- One case makes its next call and gets an answer that is true of the memory, or the call fails. -/
inductive Step : Pool → Pool → Prop where
  | call (before after : List Case) (c : Case) (m : Memory) (e : Exchange)
      (next : e.call.Answer → Inquiry (Except ServiceFailure Outcome))
      (hnext : c.rest.next? = some ⟨e.call, next⟩) (hallows : m.Allows e) :
      Step ⟨before ++ c :: after, m⟩
        ⟨before ++ ⟨c.id, next e.answer, c.past ++ [e]⟩ :: after, m.after e⟩

theorem mem_ids {p : Pool} {holds : Case → Bool} {id : RegistrationId} :
    id ∈ p.ids holds ↔ ∃ c ∈ p.cases, holds c = true ∧ c.id = id := by
  simp [ids, and_assoc]

theorem card_ids_le (p : Pool) (holds : Case → Bool) : (p.ids holds).card ≤ p.cases.countP holds := by
  unfold ids
  refine (List.toFinset_card_le _).trans ?_
  rw [List.length_map, List.countP_eq_length_filter]

/-! ## One step -/

/-- A step in which a case goes on with an exchange, while the others stay as they are. -/
structure Advance (p p' : Pool) (c c' : Case) (e : Exchange) : Prop where
  mem : c ∈ p.cases
  mem_new : c' ∈ p'.cases
  mem_of_new : ∀ d ∈ p'.cases, d = c' ∨ d ∈ p.cases
  mem_of_old : ∀ d ∈ p.cases, d = c ∨ d ∈ p'.cases
  id_eq : c'.id = c.id
  past_eq : c'.past = c.past ++ [e]
  goes_on : ∃ next, c.rest.next? = some ⟨e.call, next⟩ ∧ c'.rest = next e.answer
  allows : p.memory.Allows e
  memory_eq : p'.memory = p.memory.after e

theorem mem_replace {before after : List Case} {c c' d : Case} (h : d ∈ before ++ c :: after) :
    d = c ∨ d ∈ before ++ c' :: after := by
  rcases List.mem_append.mp h with hbefore | hrest
  · exact .inr (List.mem_append_left _ hbefore)
  · rcases List.mem_cons.mp hrest with heq | hafter
    · exact .inl heq
    · exact .inr (List.mem_append_right _ (List.mem_cons_of_mem _ hafter))

theorem Step.advance {p p' : Pool} (h : Step p p') : ∃ c c' e, Advance p p' c c' e := by
  cases h with
  | call before after c m e next hnext hallows =>
    refine ⟨c, ⟨c.id, next e.answer, c.past ++ [e]⟩, e, ?_⟩
    constructor
    case mem => simp
    case mem_new => simp
    case mem_of_new => exact fun d hd => mem_replace hd
    case mem_of_old => exact fun d hd => mem_replace hd
    case id_eq => rfl
    case past_eq => rfl
    case goes_on => exact ⟨next, hnext, rfl⟩
    case allows => exact hallows
    case memory_eq => rfl

namespace Advance

variable {p p' : Pool} {c c' : Case} {e : Exchange} {holds : Case → Bool}

/-- A property that the case keeps is lost for no registration. -/
theorem ids_subset_of_keeps (h : Advance p p' c c' e) (hkeeps : holds c = true → holds c' = true) :
    p.ids holds ⊆ p'.ids holds := by
  intro id hid
  obtain ⟨d, hd, hholds, rfl⟩ := mem_ids.mp hid
  rcases h.mem_of_old d hd with rfl | hold
  · exact mem_ids.mpr ⟨c', h.mem_new, hkeeps hholds, h.id_eq⟩
  · exact mem_ids.mpr ⟨d, hold, hholds, rfl⟩

/-- A property that the case does not gain is gained for no registration. -/
theorem ids_subset_of_gains_not (h : Advance p p' c c' e)
    (hgains : holds c' = true → holds c = true) : p'.ids holds ⊆ p.ids holds := by
  intro id hid
  obtain ⟨d, hd, hholds, rfl⟩ := mem_ids.mp hid
  rcases h.mem_of_new d hd with rfl | hold
  · exact mem_ids.mpr ⟨c, h.mem, hgains hholds, h.id_eq.symm⟩
  · exact mem_ids.mpr ⟨d, hold, hholds, rfl⟩

theorem ids_subset_insert (h : Advance p p' c c' e) (holds : Case → Bool) :
    p'.ids holds ⊆ insert c.id (p.ids holds) := by
  intro id hid
  obtain ⟨d, hd, hholds, rfl⟩ := mem_ids.mp hid
  rcases h.mem_of_new d hd with rfl | hold
  · rw [h.id_eq]
    exact Finset.mem_insert_self _ _
  · exact Finset.mem_insert_of_mem (mem_ids.mpr ⟨d, hold, hholds, rfl⟩)

theorem hasCited_eq (h : Advance p p' c c' e) (n : Nin) :
    c'.hasCited n = (c.hasCited n || e.cited?.any fun citation => citation.1 = n) := by
  unfold Case.hasCited
  rw [h.past_eq, List.filterMap_append, List.any_append]
  cases hcited : e.cited? <;> simp [hcited]

theorem hasPassed_eq (h : Advance p p' c c' e) :
    c'.hasPassed = (c.hasPassed || e.stored?.any Outcome.isValid) := by
  unfold Case.hasPassed
  rw [h.past_eq, List.filterMap_append, List.any_append]
  cases hstored : e.stored? <;> simp [hstored]

/-- Whose number was counted once stays counted. -/
theorem cited_subset (h : Advance p p' c c' e) (n : Nin) :
    p.ids (Case.hasCited n) ⊆ p'.ids (Case.hasCited n) := by
  refine h.ids_subset_of_keeps fun hcited => ?_
  rw [h.hasCited_eq, hcited, Bool.true_or]

end Advance

/-! ## What every step preserves -/

/--
The packets are those of the beginning, every case goes on lawfully, and each knows the form of its
registration.
-/
structure Sound (m₀ : Memory) (p : Pool) : Prop where
  packets : p.memory.packets = m₀.packets
  lawful : ∀ c ∈ p.cases, c.rest.Ensures (Lawful c.id) (fun _ _ => True) c.past
  form : ∀ c ∈ p.cases, ∀ fields, ⟨.fields c.id FormField.names, .ok fields⟩ ∈ c.past →
    Applicant.ofFields c.id fields = m₀.applicant c.id

theorem Sound.step {m₀ : Memory} {p p' : Pool} (h : p.Sound m₀) (hstep : Step p p') :
    p'.Sound m₀ := by
  obtain ⟨c, c', e, hadv⟩ := hstep.advance
  obtain ⟨next, hnext, hrest⟩ := hadv.goes_on
  constructor
  case packets => rw [hadv.memory_eq, (p.memory.sources_after e).packets, h.packets]
  case lawful =>
    intro d hd
    rcases hadv.mem_of_new d hd with rfl | hold
    · rw [hadv.id_eq, hadv.past_eq, hrest]
      exact ((h.lawful c hadv.mem).next hnext).2 e.answer
    · exact h.lawful d hold
  case form =>
    intro d hd fields hfields
    rcases hadv.mem_of_new d hd with rfl | hold
    · rw [hadv.id_eq, hadv.past_eq] at hfields
      rw [hadv.id_eq]
      rcases List.mem_append.mp hfields with hpast | hnow
      · exact h.form c hadv.mem fields hpast
      · rw [← List.mem_singleton.mp hnow] at hadv
        have hform : fields = p.memory.fieldsOf c.id FormField.names := hadv.allows
        rw [hform]
        exact Memory.applicant_congr h.packets c.id
    · exact h.form d hold fields hfields

/--
A registration that cites the number and had not passed in the beginning passes only after a
citation of the number was counted for it.
-/
structure Counted (m₀ : Memory) (n : Nin) (p : Pool) : Prop where
  remembered : ∀ id, p.memory.hasPassed id = true → m₀.hasPassed id = false → m₀.Cites id n →
    id ∈ p.ids (Case.hasCited n)
  found : ∀ c ∈ p.cases, ∀ o, Outcome.isValid o = true → ⟨.fetch c.id, .ok (some o)⟩ ∈ c.past →
    m₀.hasPassed c.id = false → m₀.Cites c.id n → c.id ∈ p.ids (Case.hasCited n)
  passed : ∀ c ∈ p.cases, c.hasPassed = true → vouching? c.past = some n →
    m₀.hasPassed c.id = false → c.id ∈ p.ids (Case.hasCited n)

variable {m₀ : Memory} {n : Nin} {p p' : Pool}

/-- **Who is cleared was counted**, if not before then now. -/
theorem Counted.of_cleared (h : p.Counted m₀ n) (hsound : p.Sound m₀) {c : Case} (hc : c ∈ p.cases)
    (hcleared : Cleared c.id c.past) (hnew : m₀.hasPassed c.id = false) (hcites : m₀.Cites c.id n) :
    c.id ∈ p.ids (Case.hasCited n) := by
  obtain ⟨fields, hfields, -, ⟨o, ho, hfound⟩ | hcited⟩ := hcleared
  · exact h.found c hc o ho hfound hnew hcites
  · rw [hsound.form c hc fields hfields] at hcited
    obtain ⟨⟨nin, role⟩, hmem, rfl⟩ := List.mem_map.mp hcites
    have hpast : ⟨.cite nin role, .ok ()⟩ ∈ c.past := hcited _ (List.mem_map.mpr ⟨_, hmem, rfl⟩)
    refine mem_ids.mpr ⟨c, hc, ?_, rfl⟩
    exact List.any_eq_true.mpr ⟨(nin, role), List.mem_filterMap.mpr ⟨_, hpast, rfl⟩, by simp⟩

/-- What a case stores is an outcome of its registration, and it is cleared if the outcome passes. -/
theorem Sound.cleared_of_stored (hsound : p.Sound m₀) {c c' : Case} {e : Exchange} {o : Outcome}
    (hadv : Advance p p' c c' e) (hstored : e.stored? = some o) :
    o.registrationId = c.id ∧ (o.isValid = true → Cleared c.id c.past) := by
  obtain ⟨next, hnext, -⟩ := hadv.goes_on
  have hlawful := ((hsound.lawful c hadv.mem).next hnext).1
  unfold Exchange.stored? at hstored
  split at hstored
  · cases hstored
    exact hlawful
  · cases hstored

/-- After an outcome was stored no number is checked. -/
theorem Sound.check?_eq_none_of_hasPassed (hsound : p.Sound m₀) {c c' : Case} {e : Exchange}
    (hadv : Advance p p' c c' e) (hpassed : c.hasPassed = true) : e.check? = none := by
  obtain ⟨next, hnext, -⟩ := hadv.goes_on
  have hlawful := ((hsound.lawful c hadv.mem).next hnext).1
  have hstored : ¬OnlyAsked c.past := by
    intro hasked
    rw [Case.hasPassed, hasked.stored] at hpassed
    cases hpassed
  unfold Exchange.check?
  split
  · exact absurd hlawful hstored
  · exact absurd hlawful hstored
  · rfl

/-- **Who passes on the strength of the number** was counted before the outcome was stored. -/
theorem Counted.of_passed (h : p.Counted m₀ n) (hsound : p.Sound m₀) {c c' : Case} {e : Exchange}
    (hadv : Advance p p' c c' e) (hpassed : c'.hasPassed = true)
    (hvouching : vouching? c'.past = some n) (hnew : m₀.hasPassed c.id = false) :
    c.id ∈ p.ids (Case.hasCited n) := by
  rw [hadv.past_eq] at hvouching
  rw [hadv.hasPassed_eq, Bool.or_eq_true] at hpassed
  rcases hpassed with hbefore | hnow
  · rw [vouching?_append_of_not_check (hsound.check?_eq_none_of_hasPassed hadv hbefore)]
      at hvouching
    exact h.passed c hadv.mem hbefore hvouching hnew
  · obtain ⟨o, hstored, ho⟩ := (Option.any_eq_true _ _).mp hnow
    rw [vouching?_append_of_not_check (Exchange.check?_eq_none_of_stored hstored)] at hvouching
    have hcleared := (hsound.cleared_of_stored hadv hstored).2 ho
    obtain ⟨fields, hfields, ⟨nin, role, hcited, hnin⟩, -⟩ := id hcleared
    -- The number that vouches is the one that was checked last, so the form cites it.
    rw [hvouching] at hnin
    cases hnin
    rw [hsound.form c hadv.mem fields hfields] at hcited
    have hcites : m₀.Cites c.id n := List.mem_map.mpr ⟨(n, role), hcited, rfl⟩
    exact h.of_cleared hsound hadv.mem hcleared hnew hcites

theorem Counted.step (h : p.Counted m₀ n) (hsound : p.Sound m₀) (hstep : Step p p') :
    p'.Counted m₀ n := by
  obtain ⟨c, c', e, hadv⟩ := hstep.advance
  have hsubset := hadv.cited_subset n
  constructor
  case remembered =>
    intro id hpassed hnew hcites
    rw [hadv.memory_eq, Memory.hasPassed_after] at hpassed
    split at hpassed
    · next o hstored =>
      split at hpassed
      -- An outcome was stored: for the registration of the case, or for another one.
      · next hid =>
        obtain ⟨hown, hcleared⟩ := hsound.cleared_of_stored hadv hstored
        rw [← hid, hown] at hnew hcites ⊢
        exact hsubset (h.of_cleared hsound hadv.mem (hcleared hpassed) hnew hcites)
      · exact hsubset (h.remembered id hpassed hnew hcites)
    · exact hsubset (h.remembered id hpassed hnew hcites)
  case found =>
    intro d hd o ho hfound hnew hcites
    rcases hadv.mem_of_new d hd with rfl | hold
    · rw [hadv.id_eq] at hfound hnew hcites ⊢
      rw [hadv.past_eq] at hfound
      rcases List.mem_append.mp hfound with hpast | hnow
      · exact hsubset (h.found c hadv.mem o ho hpast hnew hcites)
      · -- The repository told what it remembers.
        rw [← List.mem_singleton.mp hnow] at hadv
        have hstored : some o = Table.get? p.memory.outcomes c.id := hadv.allows
        refine hsubset (h.remembered c.id ?_ hnew hcites)
        rw [Memory.hasPassed, ← hstored]
        exact ho
    · exact hsubset (h.found d hold o ho hfound hnew hcites)
  case passed =>
    intro d hd hpassed hvouching hnew
    rcases hadv.mem_of_new d hd with rfl | hold
    · rw [hadv.id_eq] at hnew ⊢
      exact hsubset (h.of_passed hsound hadv hpassed hvouching hnew)
    · exact hsubset (h.passed d hold hpassed hvouching hnew)

/-! ## The count in the ledger -/

/-- The ledger counts a number at least once for each registration that cited it. -/
def Tallied (l₀ : Ledger) (n : Nin) (p : Pool) : Prop :=
  ∃ l, p.memory.usage = .ledger l ∧ l.limit = l₀.limit ∧
    min (UInt32.size - 1) ((l₀.count n).toNat + (p.ids (Case.hasCited n)).card) ≤ (l.count n).toNat

variable {l₀ : Ledger}

theorem Tallied.step (h : p.Tallied l₀ n) (hstep : Step p p') : p'.Tallied l₀ n := by
  obtain ⟨c, c', e, hadv⟩ := hstep.advance
  obtain ⟨l, husage, hlimit, hcount⟩ := h
  have husage' := Memory.usage_after husage e
  rw [← hadv.memory_eq] at husage'
  -- Only a citation of this number lets the set grow, by one at most, and then the count grows too.
  have hkept : (∀ citation, e.cited? = some citation → citation.1 ≠ n) →
      (p'.ids (Case.hasCited n)).card ≤ (p.ids (Case.hasCited n)).card := by
    intro hother
    refine Finset.card_le_card (hadv.ids_subset_of_gains_not fun hcited => ?_)
    rw [hadv.hasCited_eq, Bool.or_eq_true] at hcited
    refine hcited.resolve_right fun hnow => ?_
    obtain ⟨citation, hsome, hn⟩ := (Option.any_eq_true _ _).mp hnow
    exact hother citation hsome (by simpa using hn)
  cases hcited : e.cited? with
  | none =>
    rw [hcited] at husage'
    have hcard := hkept (by simp [hcited])
    exact ⟨l, husage', hlimit, by omega⟩
  | some citation =>
    obtain ⟨nin, role⟩ := citation
    rw [hcited] at husage'
    refine ⟨l.cite nin, husage', by rw [Ledger.limit_cite, hlimit], ?_⟩
    rw [Ledger.count_cite]
    split
    · next hn =>
      have hcard := (Finset.card_le_card (hadv.ids_subset_insert (Case.hasCited n))).trans
        (Finset.card_insert_le c.id (p.ids (Case.hasCited n)))
      rw [Ledger.toNat_oneMore, hn]
      omega
    · next hn =>
      have hcard := hkept (by simp [hcited, hn])
      omega

/-- Where a number is cleared, it was counted no more often than the limit. -/
theorem Tallied.le_limit_of_cleared (h : p.Tallied l₀ n)
    (hmax : l₀.limit.toNat < UInt32.size - 1) {e : Exchange} (hallows : p.memory.Allows e)
    (hcheck : e.check? = some (some n)) :
    (l₀.count n).toNat + (p.ids (Case.hasCited n)).card ≤ l₀.limit.toNat := by
  obtain ⟨l, husage, hlimit, hcount⟩ := h
  unfold Exchange.check? at hcheck
  split at hcheck
  · next nin role =>
    cases hcheck
    have hover : false = p.memory.isOverused n := hallows
    rw [Memory.isOverused, husage] at hover
    have hle : ¬l.limit < l.count n := by simpa [Ledger.isOverused] using hover.symm
    rw [UInt32.lt_iff_toNat_lt, hlimit] at hle
    omega
  · cases hcheck
  · cases hcheck

/-! ## The bound -/

/-- All that the steps preserve, while no more than `k` cases wait between check and citation. -/
structure Kept (m₀ : Memory) (l₀ : Ledger) (n : Nin) (k : Nat) (p : Pool) : Prop where
  sound : p.Sound m₀
  counted : p.Counted m₀ n
  tallied : p.Tallied l₀ n
  bounded : (p.ids (Case.stands m₀ n)).card ≤ l₀.room n k

variable {k : Nat}

/-- Who stands was counted, or waits for the citation. -/
theorem ids_stands_subset (hcounted : p.Counted m₀ n) :
    p.ids (Case.stands m₀ n) ⊆ p.ids (Case.hasCited n) ∪ p.ids (Case.isPendingOn n) := by
  intro id hid
  obtain ⟨c, hc, hstands, rfl⟩ := mem_ids.mp hid
  simp only [Case.stands, Bool.and_eq_true, Bool.or_eq_true, Bool.not_eq_true'] at hstands
  obtain ⟨⟨hnew, hvouched⟩, hopen | hpassed⟩ := hstands
  · cases hcited : c.hasCited n with
    | true => exact Finset.mem_union_left _ (mem_ids.mpr ⟨c, hc, hcited, rfl⟩)
    | false =>
      refine Finset.mem_union_right _ (mem_ids.mpr ⟨c, hc, ?_, rfl⟩)
      simp [Case.isPendingOn, hvouched, hcited, hopen]
  · have hvouching : vouching? c.past = some n := by simpa [Case.isVouchedBy] using hvouched
    exact Finset.mem_union_left _ (hcounted.passed c hc hpassed hvouching hnew)

/-- **Where a number is cleared** there is still room for those that were counted. -/
theorem Advance.card_stands_le_room {c c' : Case} {e : Exchange} (hadv : Advance p p' c c' e)
    (hcheck : e.check? = some (some n)) (htallied : p.Tallied l₀ n)
    (hmax : l₀.limit.toNat < UInt32.size - 1) (hcounted : p'.Counted m₀ n)
    (hwaiting : p'.pendingOn n ≤ k) : (p'.ids (Case.stands m₀ n)).card ≤ l₀.room n k := by
  have hroom := htallied.le_limit_of_cleared hmax hadv.allows hcheck
  have hcited : (p'.ids (Case.hasCited n)).card ≤ (p.ids (Case.hasCited n)).card := by
    refine Finset.card_le_card (hadv.ids_subset_of_gains_not fun hcited => ?_)
    rwa [hadv.hasCited_eq, Exchange.cited?_eq_none_of_check hcheck, Option.any_none, Bool.or_false]
      at hcited
  have hstands := (Finset.card_le_card (ids_stands_subset hcounted)).trans (Finset.card_union_le _ _)
  have hpending := (p'.card_ids_le (Case.isPendingOn n)).trans hwaiting
  have hle : l₀.count n ≤ l₀.limit := UInt32.le_iff_toNat_le.mpr (by omega)
  rw [Ledger.room, if_pos hle]
  omega

/-- Where the number is not cleared, nobody begins to stand. -/
theorem Advance.ids_stands_subset {c c' : Case} {e : Exchange} (hadv : Advance p p' c c' e)
    (hcheck : e.check? ≠ some (some n)) :
    p'.ids (Case.stands m₀ n) ⊆ p.ids (Case.stands m₀ n) := by
  refine hadv.ids_subset_of_gains_not fun hstands => ?_
  obtain ⟨next, hnext, -⟩ := hadv.goes_on
  -- The case made a call, so it was not over before.
  have hopen : c.isOver = false := by rw [Case.isOver, hnext]; rfl
  simp only [Case.stands, Bool.and_eq_true, hadv.id_eq] at hstands
  obtain ⟨⟨hnew, hvouched⟩, -⟩ := hstands
  have hsame : c.isVouchedBy n = true := by
    rw [Case.isVouchedBy, hadv.past_eq] at hvouched
    cases hnone : e.check? with
    | none => rwa [vouching?_append_of_not_check hnone] at hvouched
    | some x =>
      rw [vouching?_append_of_check hnone] at hvouched
      rw [hnone, of_decide_eq_true hvouched] at hcheck
      exact absurd rfl hcheck
  simp only [Case.stands, hnew, hsame, hopen, Bool.not_false, Bool.true_or, Bool.and_self]

theorem Kept.step (h : p.Kept m₀ l₀ n k) (hmax : l₀.limit.toNat < UInt32.size - 1)
    (hstep : Step p p') (hwaiting : p'.pendingOn n ≤ k) : p'.Kept m₀ l₀ n k := by
  have hcounted := h.counted.step h.sound hstep
  refine ⟨h.sound.step hstep, hcounted, h.tallied.step hstep, ?_⟩
  obtain ⟨c, c', e, hadv⟩ := hstep.advance
  by_cases hcheck : e.check? = some (some n)
  · exact hadv.card_stands_le_room hcheck h.tallied hmax hcounted hwaiting
  · exact (Finset.card_le_card (hadv.ids_stands_subset hcheck)).trans h.bounded

/-! ## The beginning -/

theorem past_eq_nil_of_start {r : Rules} {requests : List Request} {m : Memory} {c : Case}
    (hc : c ∈ (start r requests m).cases) : c.past = [] := by
  obtain ⟨q, -, rfl⟩ := List.mem_map.mp hc
  rfl

/-- What only comes from exchanges holds for no registration in the beginning. -/
theorem ids_start {r : Rules} {requests : List Request} {m : Memory} {holds : Case → Bool}
    (hnot : ∀ c : Case, c.past = [] → holds c = false) : (start r requests m).ids holds = ∅ := by
  refine Finset.eq_empty_of_forall_notMem fun id hid => ?_
  obtain ⟨c, hc, hholds, -⟩ := mem_ids.mp hid
  rw [hnot c (past_eq_nil_of_start hc)] at hholds
  cases hholds

theorem sound_start (r : Rules) (requests : List Request) (m : Memory) :
    (start r requests m).Sound m where
  packets := rfl
  lawful := by
    intro c hc
    obtain ⟨q, -, rfl⟩ := List.mem_map.mp hc
    exact (process_ensures q.now).mono (fun _ _ h => h) fun _ _ _ => trivial
  form := by
    intro c hc fields hfields
    rw [past_eq_nil_of_start hc] at hfields
    cases hfields

theorem counted_start (r : Rules) (requests : List Request) (m : Memory) (n : Nin) :
    (start r requests m).Counted m n where
  remembered := by
    intro id hpassed hnew
    exact absurd (hpassed.symm.trans hnew) (by decide)
  found := by
    intro c hc o _ hfound
    rw [past_eq_nil_of_start hc] at hfound
    cases hfound
  passed := by
    intro c hc hpassed
    rw [Case.hasPassed, past_eq_nil_of_start hc] at hpassed
    cases hpassed

theorem tallied_start (r : Rules) (requests : List Request) {m : Memory} {l : Ledger}
    (hl : m.usage = .ledger l) (n : Nin) : (start r requests m).Tallied l n := by
  refine ⟨l, hl, rfl, ?_⟩
  rw [ids_start fun c hc => by rw [Case.hasCited, hc]; rfl, Finset.card_empty]
  exact Nat.min_le_right _ _

theorem kept_start (r : Rules) (requests : List Request) {m : Memory} {l : Ledger}
    (hl : m.usage = .ledger l) (n : Nin) (k : Nat) : (start r requests m).Kept m l n k where
  sound := sound_start r requests m
  counted := counted_start r requests m n
  tallied := tallied_start r requests hl n
  bounded := by
    rw [ids_start fun c hc => by simp [Case.stands, Case.isVouchedBy, hc, vouching?],
      Finset.card_empty]
    exact Nat.zero_le _

/-- **The bound for every course of steps**: so many registrations pass on the strength of a number
as there is room for, if no more than `k` wait at once between its check and its citation. -/
theorem card_passed_le {r : Rules} {requests : List Request} {m : Memory} {l : Ledger}
    (hl : m.usage = .ledger l) (hmax : l.limit.toNat < UInt32.size - 1)
    (h : Relation.ReflTransGen (fun p p' => Step p p' ∧ p'.pendingOn n ≤ k)
      (start r requests m) p) :
    (p.passedBy m n).card ≤ l.room n k := by
  have hkept : p.Kept m l n k := by
    induction h with
    | refl => exact kept_start r requests hl n k
    | tail _ hstep ih => exact ih.step hmax hstep.1 hstep.2
  refine le_trans (Finset.card_le_card fun id hid => ?_) hkept.bounded
  obtain ⟨c, hc, hpassed, rfl⟩ := mem_ids.mp hid
  refine mem_ids.mpr ⟨c, hc, ?_, rfl⟩
  rw [Bool.and_eq_true] at hpassed
  rw [Case.stands, hpassed.1, hpassed.2, Bool.or_true, Bool.and_true]

end Pool

end Birthright
