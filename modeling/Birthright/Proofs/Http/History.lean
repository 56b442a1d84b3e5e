import Birthright.Fixture
import Birthright.Http.Resource
import Birthright.Proofs.Verification.Masking
import Birthright.Proofs.Verification.Undisturbed

/-!
# The history of a registration as its visitors see it

Visitors process registrations and look their outcomes up, one after the other. Over collaborators
in memory the application is a table of answers: a look at a registration shows the last answer that
was given when it was processed, and nothing else changes what is shown.

* `runIn_post`, `runIn_get` — what one visit does
* `memoryAfter_eq_served` — only visits that process a registration leave traces
* `history_law` — the answers in any sequence of visits
-/

namespace Birthright.Http

open Calendar (Instant)

/-! ## Visits -/

/-- A request to process a registration, or to look its outcome up. -/
structure Visit where
  /-- Whether the registration shall be processed; else its outcome is looked up. -/
  posts : Bool
  /-- The target, whose path names the registration. -/
  target : String
  /-- The part of the path that stands for the id, with its escapes. -/
  segment : List Char
  id : RegistrationId
  now : Instant
  /-- Whether the application is ready. -/
  ready : Bool
  names : Resource.ofPath? (segments target) = some (.verification segment)
  decodes : segmentText? segment = some id.text

namespace Visit

/-- The method of the request. -/
def method (v : Visit) : Method := if v.posts then .post else .get

/-- How the application handles the request. -/
def inquiry (r : Rules) (v : Visit) : Inquiry Response :=
  answerApplication r v.now v.ready v.method v.target

/-- The registration that shall be processed, and when. -/
def request? (v : Visit) : Option Request := if v.posts then some ⟨v.id, v.now⟩ else none

end Visit

/-- What is done with the result alone is no part of the run. -/
theorem runIn_bind_pure {α β : Type} (x : Inquiry α) (f : α → β) (m : Memory) :
    (x >>= fun a => pure (f a)).runIn m
      = ⟨f (x.runIn m).result, (x.runIn m).journal, (x.runIn m).state⟩ := by
  unfold Inquiry.runIn
  rw [Inquiry.run_bind]
  exact congrArg (Run.mk _ · _) (List.append_nil _)

section Visits

variable {v : Visit} {m : Memory}

/-- A visit is handled as a request about its registration. -/
theorem inquiry_eq (r : Rules) (v : Visit) :
    v.inquiry r = (answerVerification r v.now v.method v.segment >>= fun a => pure a) := by
  unfold Visit.inquiry answerApplication
  rw [v.names]
  unfold Visit.method
  cases v.posts with
  | true => rfl
  | false => rfl

/-- **A visit that processes a registration** is answered with what the processing comes to. -/
theorem runIn_post (hv : v.posts = true) (r : Rules) (m : Memory) :
    ((v.inquiry r).runIn m).result = processedResponse v.id ((process r v.now v.id).runIn m).result ∧
      ((v.inquiry r).runIn m).state = m.processed r ⟨v.id, v.now⟩ := by
  have hmethod : v.method = .post := by rw [Visit.method, hv, if_pos rfl]
  rw [inquiry_eq, runIn_bind_pure, answerVerification, v.decodes, hmethod]
  dsimp only
  rw [runIn_bind_pure]
  exact ⟨rfl, rfl⟩

/-- What comes of a look at a registration. -/
def found : Option Outcome → Except ServiceFailure Outcome
  | none => .error (.record .notFound)
  | some o => .ok o

theorem runIn_lookUp (hm : m.outages = []) (id : RegistrationId) :
    ((lookUp id).runIn m).result = found (Table.get? m.outcomes id) ∧
      ((lookUp id).runIn m).state = m := by
  have hanswer : m.answer (.fetch id) = (.ok (Table.get? m.outcomes id), [], m) := by
    unfold Memory.answer
    rw [hm]
    rfl
  have hfetch : (Inquiry.fetch id).runIn m
      = ⟨.ok (Table.get? m.outcomes id), [.call (.fetch id)], m⟩ := by
    simp [Inquiry.runIn, Inquiry.fetch, Inquiry.run, Memory.collaborators, hanswer, Run.after,
      pure]
  unfold Inquiry.runIn at hfetch ⊢
  rw [lookUp, Inquiry.run_bind, hfetch]
  cases Table.get? m.outcomes id with
  | none => exact ⟨rfl, rfl⟩
  | some o => exact ⟨rfl, rfl⟩

/-- **A visit that looks an outcome up** is answered with what is stored, and leaves no trace. -/
theorem runIn_get (hv : v.posts = false) (hm : m.outages = []) (r : Rules) :
    ((v.inquiry r).runIn m).result
        = lookedUpResponse v.id (found (Table.get? m.outcomes v.id)) ∧
      ((v.inquiry r).runIn m).state = m := by
  have hmethod : v.method = .get := by
    rw [Visit.method, hv]
    rfl
  obtain ⟨hresult, hstate⟩ := runIn_lookUp hm v.id
  rw [inquiry_eq, runIn_bind_pure, answerVerification, v.decodes, hmethod]
  dsimp only
  rw [runIn_bind_pure]
  exact ⟨congrArg (lookedUpResponse v.id) hresult, hstate⟩

/-- **Without outages an outcome is given back** and stored, and no other one is touched. -/
theorem processed_stores (hm : m.outages = []) (r : Rules) (q : Request) :
    ∃ o, ((process r q.now q.id).runIn m).result = .ok o ∧ ∀ id,
      Table.get? (m.processed r q).outcomes id
        = if q.id = id then some o else Table.get? m.outcomes id := by
  obtain ⟨v, hdone⟩ := Memory.process_undisturbed hm r q
  refine ⟨.ofVerdict q.id v q.now, hdone.result, fun id => ?_⟩
  rw [Memory.processed_eq]
  exact hdone.get?_outcomes id

end Visits

/-! ## Sequences of visits -/

/-- What the collaborators know after visits to an application with this fixture and limit. -/
def memoryAfter (f : Fixture) (limit : UInt32) (r : Rules) (before : List Visit) : Memory :=
  before.foldl (fun m v => ((v.inquiry r).runIn m).state) (f.memory limit)

/-- The answer to a visit after others. -/
def answerAfter (f : Fixture) (limit : UInt32) (r : Rules) (before : List Visit) (v : Visit) :
    Response :=
  ((v.inquiry r).runIn (memoryAfter f limit r before)).result

/-- The registrations that were processed, and when. -/
def requests (before : List Visit) : List Request := before.filterMap Visit.request?

/-- The visits do not have the registration processed. -/
def NotPosted (id : RegistrationId) (visits : List Visit) : Prop :=
  ∀ u ∈ visits, u.posts = true → u.id ≠ id

section History

variable {f : Fixture} {limit : UInt32} {r : Rules} {before later : List Visit} {v : Visit}
  {id : RegistrationId}

theorem memoryAfter_append (f : Fixture) (limit : UInt32) (r : Rules) (before : List Visit)
    (v : Visit) : memoryAfter f limit r (before ++ [v])
      = ((v.inquiry r).runIn (memoryAfter f limit r before)).state := by
  rw [memoryAfter, List.foldl_append]
  rfl

theorem outages_served (f : Fixture) (limit : UInt32) (r : Rules) (requests : List Request) :
    ((f.memory limit).served r requests).outages = [] :=
  (Memory.later_served rfl r requests).1.outages rfl

/-- **Only visits that process a registration leave traces.** -/
theorem memoryAfter_eq_served (f : Fixture) (limit : UInt32) (r : Rules) (before : List Visit) :
    memoryAfter f limit r before = (f.memory limit).served r (requests before) := by
  induction before using List.reverseRecOn with
  | nil => rfl
  | append_singleton before v ih =>
    unfold requests at ih ⊢
    rw [memoryAfter_append, ih, List.filterMap_append]
    cases hv : v.posts with
    | true =>
      have hrequest : [v].filterMap Visit.request? = [⟨v.id, v.now⟩] := by
        simp [Visit.request?, hv]
      rw [(runIn_post hv r _).2, hrequest, Memory.served_append]
    | false =>
      have hrequest : [v].filterMap Visit.request? = [] := by simp [Visit.request?, hv]
      rw [(runIn_get hv (outages_served f limit r _) r).2, hrequest, List.append_nil]

/-- No call fails, however many visits there were. -/
theorem outages_memoryAfter (f : Fixture) (limit : UInt32) (r : Rules) (before : List Visit) :
    (memoryAfter f limit r before).outages = [] := by
  rw [memoryAfter_eq_served]
  exact outages_served f limit r (requests before)

/-! ## Answers -/

/-- **Whoever has a registration processed** gets its outcome, and it is stored. -/
theorem answerAfter_post (hv : v.posts = true) (f : Fixture) (limit : UInt32) (r : Rules)
    (before : List Visit) :
    ∃ o : Outcome, answerAfter f limit r before v = .json 200 o.view.toJson ∧
      ∀ id, Table.get? (memoryAfter f limit r (before ++ [v])).outcomes id
        = if v.id = id then some o else Table.get? (memoryAfter f limit r before).outcomes id := by
  obtain ⟨hresult, hstate⟩ := runIn_post hv r (memoryAfter f limit r before)
  obtain ⟨o, ho, hstored⟩ :=
    processed_stores (outages_memoryAfter f limit r before) r ⟨v.id, v.now⟩
  refine ⟨o, ?_, fun id => ?_⟩
  · rw [answerAfter, hresult, ho]
    rfl
  · rw [memoryAfter_append, hstate]
    exact hstored id

/-- **Whoever looks at a registration** sees what is stored, and changes nothing. -/
theorem answerAfter_get (hv : v.posts = false) (f : Fixture) (limit : UInt32) (r : Rules)
    (before : List Visit) :
    answerAfter f limit r before v = lookedUpResponse v.id
        (found (Table.get? (memoryAfter f limit r before).outcomes v.id)) ∧
      memoryAfter f limit r (before ++ [v]) = memoryAfter f limit r before := by
  rw [memoryAfter_append]
  exact runIn_get hv (outages_memoryAfter f limit r before) r

/-- Visits that do not have a registration processed leave its outcome as it is. -/
theorem get?_outcomes_of_notPosted (hother : NotPosted id later) :
    Table.get? (memoryAfter f limit r (before ++ later)).outcomes id
      = Table.get? (memoryAfter f limit r before).outcomes id := by
  induction later using List.reverseRecOn with
  | nil => rw [List.append_nil]
  | append_singleton later v ih =>
    have hbefore := ih fun u hu => hother u (List.mem_append_left _ hu)
    rw [← List.append_assoc]
    cases hv : v.posts with
    | true =>
      obtain ⟨o, -, hstored⟩ := answerAfter_post hv f limit r (before ++ later)
      rw [hstored, if_neg (hother v (by simp) hv), hbefore]
    | false => rw [(answerAfter_get hv f limit r (before ++ later)).2, hbefore]

/-- **A registration has an outcome** exactly if it was processed. -/
theorem get?_outcomes_eq_none_iff (f : Fixture) (limit : UInt32) (r : Rules) :
    Table.get? (memoryAfter f limit r before).outcomes id = none ↔ NotPosted id before := by
  induction before using List.reverseRecOn with
  | nil => exact ⟨fun _ u hu => (List.not_mem_nil hu).elim, fun _ => rfl⟩
  | append_singleton before v ih =>
    unfold NotPosted at ih ⊢
    rw [List.forall_mem_append, List.forall_mem_singleton]
    cases hv : v.posts with
    | true =>
      obtain ⟨o, -, hstored⟩ := answerAfter_post hv f limit r before
      rw [hstored, ← ih]
      by_cases hid : v.id = id
      · simp [hid]
      · simp [hid]
    | false =>
      rw [(answerAfter_get hv f limit r before).2, ih]
      simp

end History

/-! ## Answers but for the time -/

/-- An answer without the time at which an outcome was processed. -/
def Response.withoutTime (a : Response) : Response :=
  match a.body with
  | .json (.obj members) => { a with body := .json (.obj (members.filter (·.1 ≠ "processed_at"))) }
  | _ => a

theorem withoutTime_view {o o' : Outcome} (h : o.Alike o') :
    (Response.json 200 o.view.toJson).withoutTime
      = (Response.json 200 o'.view.toJson).withoutTime := by
  rw [h]
  simp only [Response.withoutTime, Response.json, StatusView.toJson, List.filter_append]
  rfl

theorem withoutTime_processedResponse {x x' : Except ServiceFailure Outcome}
    (h : AlikeResults x x') (id : RegistrationId) :
    (processedResponse id x).withoutTime = (processedResponse id x').withoutTime := by
  cases h with
  | failed e => rfl
  | processed ho => exact withoutTime_view ho

theorem withoutTime_lookedUpResponse {stored stored' : Option Outcome}
    (h : Option.Rel Outcome.Alike stored stored') (id : RegistrationId) :
    (lookedUpResponse id (found stored)).withoutTime
      = (lookedUpResponse id (found stored')).withoutTime := by
  cases h with
  | none => rfl
  | some ho => exact withoutTime_view ho

section Alike

theorem requests_filter {keep : Visit → Bool} (hkeep : ∀ u, u.posts = true → keep u = true)
    (before : List Visit) : requests (before.filter keep) = requests before := by
  unfold requests
  rw [List.filterMap_filter]
  refine List.filterMap_congr fun u _ => ?_
  cases hu : u.posts with
  | true => rw [if_pos (hkeep u hu)]
  | false => simp [Visit.request?, hu]

variable {f : Fixture} {limit : UInt32} {r : Rules} {before before' : List Visit} {v v' : Visit}

theorem state_processAll (r : Rules) (requests : List Request) (m : Memory) :
    ((processAll r requests).runIn m).state = m.served r requests := by
  induction requests generalizing m with
  | nil => rfl
  | cons q rest ih =>
    rw [processAll, Inquiry.runIn, Inquiry.run_bind]
    show (((processAll r rest) >>= fun results => pure _).runIn (m.processed r q)).state = _
    rw [runIn_bind_pure]
    exact ih (m.processed r q)

/-- **Only the order counts** in which registrations were processed, and not the time. -/
theorem alikeMemories_memoryAfter (f : Fixture) (limit : UInt32) (r : Rules)
    (h : (requests before).map Request.id = (requests before').map Request.id) :
    Renaming.refl.AlikeMemories (memoryAfter f limit r before)
      (memoryAfter f limit r before') := by
  rw [memoryAfter_eq_served, memoryAfter_eq_served, ← state_processAll, ← state_processAll]
  exact ((processAll_alike r h).run (Renaming.simulates_collaborators .refl) (.refl _)).state

theorem withoutTime_answerAfter
    (h : (requests before).map Request.id = (requests before').map Request.id)
    (hposts : v.posts = v'.posts) (hid : v.id = v'.id) :
    (answerAfter f limit r before v).withoutTime
      = (answerAfter f limit r before' v').withoutTime := by
  have hm := alikeMemories_memoryAfter f limit r h
  cases hv : v.posts with
  | true =>
    rw [answerAfter, answerAfter, (runIn_post hv r _).1, (runIn_post (hposts ▸ hv) r _).1, hid]
    have hresult := (process_alike r v.now v'.now v'.id).run (Renaming.simulates_collaborators .refl) hm
    exact withoutTime_processedResponse hresult.result v'.id
  | false =>
    rw [(answerAfter_get hv f limit r before).1, (answerAfter_get (hposts ▸ hv) f limit r before').1,
      hid]
    exact withoutTime_lookedUpResponse (hm.outcomes v'.id) v'.id

end Alike

/-! ## The law -/

/-- What is answered to a visit after others. -/
structure HistoryLaw (answer : List Visit → Visit → Response) (before : List Visit) (v : Visit) :
    Prop where
  /-- To process a registration succeeds, whether it is known or not. -/
  posted : v.posts = true → (answer before v).status = 200
  /-- Nothing is found exactly if the registration was not processed before. -/
  unknown_iff : v.posts = false → ((answer before v).status = 404 ↔ NotPosted v.id before)
  /-- Else the last answer is found that was given when the registration was processed. -/
  latest : v.posts = false → ∀ earlier u later, before = earlier ++ u :: later →
    u.posts = true → u.id = v.id → NotPosted v.id later →
    (answer before v).status = 200 ∧ answer before v = answer earlier u
  /-- Nothing else counts but which registrations were processed, and in which order. -/
  undisturbed : ∀ before' v', (requests before).map Request.id = (requests before').map Request.id →
    v.posts = v'.posts → v.id = v'.id →
    (answer before v).withoutTime = (answer before' v').withoutTime
  /-- So looks at registrations can be left out. -/
  removed : ∀ keep : Visit → Bool, (∀ u, u.posts = true → keep u = true) →
    (answer (before.filter keep) v).withoutTime = (answer before v).withoutTime

/--
**The history of visits**: over collaborators in memory, with any fixture, limit and rules, a look
at a registration shows what was answered when it was processed last.
-/
theorem history_law (f : Fixture) (limit : UInt32) (r : Rules) (before : List Visit) (v : Visit) :
    HistoryLaw (answerAfter f limit r) before v where
  posted hv := by
    obtain ⟨o, hanswer, -⟩ := answerAfter_post hv f limit r before
    rw [hanswer]
    rfl
  unknown_iff hv := by
    rw [(answerAfter_get hv f limit r before).1, ← get?_outcomes_eq_none_iff f limit r]
    cases Table.get? (memoryAfter f limit r before).outcomes v.id with
    | none => exact ⟨fun _ => rfl, fun _ => rfl⟩
    | some o => simp [found, lookedUpResponse, Response.json]
  latest hv earlier u later hbefore hu hid hlater := by
    obtain ⟨o, hanswer, hstored⟩ := answerAfter_post hu f limit r earlier
    have hkept : Table.get? (memoryAfter f limit r before).outcomes v.id = some o := by
      rw [hbefore, List.append_cons, get?_outcomes_of_notPosted hlater, hstored, if_pos hid]
    rw [(answerAfter_get hv f limit r before).1, hkept, hanswer]
    exact ⟨rfl, rfl⟩
  undisturbed before' v' h hposts hid := withoutTime_answerAfter h hposts hid
  removed keep hkeep := withoutTime_answerAfter (by rw [requests_filter hkeep]) rfl rfl

/-- A request about the registration "A", or about "B" which is written with an escape. -/
def visit (posts aboutA : Bool) : Visit where
  posts := posts
  target := if aboutA then "/api/v1/registrations/A/citizenship-verification"
    else "/api/v1/registrations/%42/citizenship-verification?again"
  segment := if aboutA then ['A'] else ['%', '4', '2']
  id := if aboutA then ⟨"A"⟩ else ⟨"B"⟩
  now := (requestFor "A").now
  ready := true
  names := by cases aboutA <;> decide +kernel
  decodes := by cases aboutA <;> decide +kernel

theorem history_law_of_visits :
    (answerAfter .empty 5 .standard [] (visit true true)).status = 200 ∧
      (answerAfter .empty 5 .standard [visit true true] (visit false false)).status = 404 ∧
      (answerAfter .empty 5 .standard [visit true true, visit false false]
        (visit false true)).status = 200 ∧
      answerAfter .empty 5 .standard [visit true true, visit false false] (visit false true)
        = answerAfter .empty 5 .standard [] (visit true true) := by
  have hposted := (history_law .empty 5 .standard [] (visit true true)).posted rfl
  have hunknown := (history_law .empty 5 .standard [visit true true] (visit false false)).unknown_iff
    rfl
  have hlatest := (history_law .empty 5 .standard [visit true true, visit false false]
    (visit false true)).latest rfl [] (visit true true) [visit false false] rfl rfl rfl
  obtain ⟨hfound, hsame⟩ := hlatest (by simp [NotPosted, visit])
  exact ⟨hposted, hunknown.mpr (by simp [NotPosted, visit]), hfound, hsame⟩

end Birthright.Http
