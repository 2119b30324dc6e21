/-
# The course of a request

The steps of an endpoint stand in one order (`steps`): authentication, the check of permissions if
there are any, validation, the hooks as they were declared, and the handler.  A run takes them in
turn until one fails (`Runs`).  What fails from validation on goes to the error hooks, which decline
it by answering `null`, and the first that does not has the last word (`Recovered`).

A step changes only what is known of the request (`Known`).  So what an error hook sees is what the
steps before the failure have left: the principal, the notes, and the payload if validation
succeeded.  The failure itself is what has left the coroutine of the step (`call`), which for one
kind is not what arose in it.

**Main statement.**  `run_course`.
-/
import Mathlib.Data.List.Range
import Portcullis.Endpoint
import Portcullis.Proofs.Authentication.Outcome

namespace Portcullis

namespace Endpoint

open Authentication

/-! ## 1. Steps -/

/-- What is known of a request on its way. -/
structure Known where
  principal : Principal := .anonymous
  payload : Option Members := none
  notes : Members := []
  answer : Json := .null

namespace Known

/-- The request with the principal as its identity. -/
def request (k : Known) (r : Request) : Request := { r with identity := .principal k.principal }

/-- What hooks and the handler see. -/
def context (k : Known) (r : Request) : Context := ⟨k.request r, k.principal, k.payload⟩

/-- Goes on with what is known from a result, or fails and leaves it. -/
def attempt {α : Type} (k : Known) (x : Except Fault α) (learn : α → Known) :
    Except Fault Unit × Known :=
  match x with
  | .ok a => (.ok (), learn a)
  | .error fault => (.error fault, k)

end Known

/-- A step: the stage it is, and what it makes of what is known. -/
structure Step where
  stage : Stage
  perform : Known → Except Fault Unit × Known

section Steps

variable (e : Endpoint) (trust : Trust) (r : Request) (now : Instant)

/-- Authentication learns the principal. -/
def authenticating : Step where
  stage := .authentication
  perform k := k.attempt (attach trust e.strategy e.acceptInvalid r now).outcome
    fun principal => { k with principal }

/-- The check of permissions learns nothing. -/
def permitting : Step where
  stage := .permissions
  perform k := k.attempt (requirePermissions e.permissions k.principal) fun _ => k

/-- Validation learns the payload. -/
def validating : Step where
  stage := .validation
  perform k := k.attempt (e.validate (k.request r)) fun payload => { k with payload }

/-- A hook leaves notes, also if it fails. -/
def hooking (hook : Hook) (index : Nat) : Step where
  stage := .hook index
  perform k :=
    ((call (hook (k.context r)) k.notes).1,
      { k with notes := (call (hook (k.context r)) k.notes).2 })

/-- The handler leaves notes, and the answer if it succeeds. -/
def handling : Step where
  stage := .handler
  perform k :=
    match call (e.handler (k.context r)) k.notes with
    | (.ok answer, notes) => (.ok (), { k with notes, answer })
    | (.error fault, notes) => (.error fault, { k with notes })

variable {e r} {k : Known} {notes : Members}

theorem perform_handling {answer : Json}
    (h : call (e.handler (k.context r)) k.notes = (.ok answer, notes)) :
    (handling e r).perform k = (.ok (), { k with notes, answer }) := by
  simp only [handling, h]

theorem perform_handling_error {fault : Fault}
    (h : call (e.handler (k.context r)) k.notes = (.error fault, notes)) :
    (handling e r).perform k = (.error fault, { k with notes }) := by
  simp only [handling, h]

variable (e r)

/-- The hooks in turn, the first of them with a number. -/
def hookSteps (first : Nat) (hooks : List Hook) : List Step :=
  (hooks.zipIdx first).map fun hook => hooking r hook.1 hook.2

/-- The steps that let a caller in. -/
def entrySteps : List Step :=
  authenticating e trust r now :: if e.permissions.isEmpty then [] else [permitting e]

/-- The steps that serve a caller. -/
def serviceSteps : List Step :=
  validating e r :: (hookSteps r 0 e.hooks ++ [handling e r])

/-- The steps of a request in their order. -/
def steps : List Step := e.entrySteps trust r now ++ e.serviceSteps r

end Steps

/-! ## 2. Runs -/

/-- Steps run in turn until one fails: the stages that were entered, how it ended, and what is known
then. -/
inductive Runs : Known → List Step → List Stage → Except Fault Unit → Known → Prop
  | done (k : Known) : Runs k [] [] (.ok ()) k
  | next {k k₁ k₂ : Known} {step : Step} {rest : List Step} {stages : List Stage}
      {outcome : Except Fault Unit} (succeeds : step.perform k = (.ok (), k₁))
      (others : Runs k₁ rest stages outcome k₂) :
      Runs k (step :: rest) (step.stage :: stages) outcome k₂
  | stopped {k k₁ : Known} {step : Step} {rest : List Step} {fault : Fault}
      (fails : step.perform k = (.error fault, k₁)) :
      Runs k (step :: rest) [step.stage] (.error fault) k₁

namespace Runs

/-- What succeeds is gone on from. -/
theorem append {k k₁ k₂ : Known} {before after : List Step} {stages stages' : List Stage}
    {outcome : Except Fault Unit} (h : Runs k before stages (.ok ()) k₁)
    (h' : Runs k₁ after stages' outcome k₂) :
    Runs k (before ++ after) (stages ++ stages') outcome k₂ := by
  generalize hok : (.ok () : Except Fault Unit) = first at h
  induction h with
  | done k => exact h'
  | next succeeds _ ih => exact .next succeeds (ih h' hok)
  | stopped fails => cases hok

/-- What fails is not gone on from. -/
theorem append_of_error {k k₁ : Known} {before : List Step} {stages : List Stage} {fault : Fault}
    (h : Runs k before stages (.error fault) k₁) (after : List Step) :
    Runs k (before ++ after) stages (.error fault) k₁ := by
  generalize herror : (.error fault : Except Fault Unit) = last at h
  induction h with
  | done k => cases herror
  | next succeeds _ ih => exact .next succeeds (ih herror)
  | stopped fails => exact .stopped fails

/-- The stages that are entered are the first ones. -/
theorem stages_prefix {k k₁ : Known} {steps : List Step} {stages : List Stage}
    {outcome : Except Fault Unit} (h : Runs k steps stages outcome k₁) :
    stages <+: steps.map Step.stage := by
  induction h with
  | done k => exact List.prefix_rfl
  | next _ _ ih => exact List.prefix_cons_inj _ |>.mpr ih
  | stopped _ => exact List.prefix_cons_inj _ |>.mpr (List.nil_prefix)

end Runs

/-- Hooks run as their steps do. -/
theorem runs_hookSteps (r : Request) (hooks : List Hook) (first : Nat) (k : Known) :
    let p := runHooks (k.context r) first hooks k.notes
    Runs k (hookSteps r first hooks) p.stages p.outcome { k with notes := p.notes } := by
  -- A hook changes the notes alone, so all hooks see one context.
  induction hooks generalizing first k with
  | nil => exact .done k
  | cons hook rest ih =>
    intro p
    cases hhook : call (hook (k.context r)) k.notes with
    | mk result notes =>
      cases result with
      | ok u =>
        have hp : p = (runHooks (k.context r) (first + 1) rest notes).after (.hook first) := by
          simp only [p, runHooks, hhook]
        rw [hp]
        refine .next ?_ (ih (first + 1) { k with notes })
        simp only [hooking, hhook]
      | error fault =>
        have hp : p = ⟨[.hook first], notes, .error fault⟩ := by
          simp only [p, runHooks, hhook]
        rw [hp]
        refine .stopped ?_
        simp only [hooking, hhook]

/-! ## 3. Recovery -/

/-- Error hooks decline a failure in turn, and leave notes. -/
inductive Decline (ctx : Context) (fault : Fault) : List ErrorHook → Members → Members → Prop
  | nil (notes : Members) : Decline ctx fault [] notes notes
  | cons {hook : ErrorHook} {rest : List ErrorHook} {notes notes₁ notes₂ : Members}
      (declines : call (hook ctx fault) notes = (.ok .null, notes₁))
      (others : Decline ctx fault rest notes₁ notes₂) :
      Decline ctx fault (hook :: rest) notes notes₂

/-- What becomes of a failure that is offered to error hooks, and how many of them see it: all
decline and it stands, or the first that does not decline answers or fails itself. -/
inductive Recovered (ctx : Context) (fault : Fault) (hooks : List ErrorHook) (notes : Members) :
    Nat → Except Fault Json → Prop
  | passed {notes₁ : Members} (declined : Decline ctx fault hooks notes notes₁) :
      Recovered ctx fault hooks notes hooks.length (.error fault)
  | answered {before after : List ErrorHook} {hook : ErrorHook} {notes₁ notes₂ : Members}
      {answer : Json} (split : hooks = before ++ hook :: after)
      (declined : Decline ctx fault before notes notes₁)
      (answers : call (hook ctx fault) notes₁ = (.ok answer, notes₂)) (answered : answer ≠ .null) :
      Recovered ctx fault hooks notes (before.length + 1) (.ok answer)
  | raised {before after : List ErrorHook} {hook : ErrorHook} {notes₁ notes₂ : Members}
      {other : Fault} (split : hooks = before ++ hook :: after)
      (declined : Decline ctx fault before notes notes₁)
      (raises : call (hook ctx fault) notes₁ = (.error other, notes₂)) :
      Recovered ctx fault hooks notes (before.length + 1) (.error other)

/-- A hook that declines leaves the failure to the others. -/
theorem Recovered.cons {ctx : Context} {fault : Fault} {hook : ErrorHook}
    {rest : List ErrorHook} {notes notes₁ : Members} {n : Nat} {outcome : Except Fault Json}
    (declines : call (hook ctx fault) notes = (.ok .null, notes₁))
    (h : Recovered ctx fault rest notes₁ n outcome) :
    Recovered ctx fault (hook :: rest) notes (n + 1) outcome := by
  cases h with
  | passed declined => exact .passed (.cons declines declined)
  | @answered before after last _ _ _ split declined answers answered =>
    have hsplit : hook :: rest = (hook :: before) ++ last :: after := by
      rw [split, List.cons_append]
    exact .answered hsplit (.cons declines declined) answers answered
  | @raised before after last _ _ _ split declined raises =>
    have hsplit : hook :: rest = (hook :: before) ++ last :: after := by
      rw [split, List.cons_append]
    exact .raised hsplit (.cons declines declined) raises

/-- Error hooks recover what they are offered. -/
theorem recovered_runErrorHooks (ctx : Context) (fault : Fault) (hooks : List ErrorHook)
    (first : Nat) (notes : Members) :
    ∃ n, Recovered ctx fault hooks notes n (runErrorHooks ctx fault first hooks notes).outcome
      ∧ (runErrorHooks ctx fault first hooks notes).stages
        = (List.range' first n).map .errorHook := by
  induction hooks generalizing first notes with
  | nil => exact ⟨0, .passed (.nil notes), rfl⟩
  | cons hook rest ih =>
    have hfirst : hook :: rest = [] ++ hook :: rest := rfl
    cases hhook : call (hook ctx fault) notes with
    | mk result notes₁ =>
      cases result with
      | error other =>
        have hother : runErrorHooks ctx fault first (hook :: rest) notes
            = ⟨[.errorHook first], notes₁, .error other⟩ := by
          simp only [runErrorHooks, hhook]
        rw [hother]
        exact ⟨1, .raised hfirst (.nil notes) hhook, rfl⟩
      | ok answer =>
        by_cases hnull : answer = .null
        · subst hnull
          obtain ⟨n, hrecovered, hstages⟩ := ih (first + 1) notes₁
          refine ⟨n + 1, ?_, ?_⟩
          · simp only [runErrorHooks, hhook]
            exact hrecovered.cons hhook
          · simp only [runErrorHooks, hhook, Progress.after, hstages, List.range'_succ,
              List.map_cons]
        · have hanswer : runErrorHooks ctx fault first (hook :: rest) notes
              = ⟨[.errorHook first], notes₁, .ok answer⟩ := by
            simp only [runErrorHooks, hhook]
          rw [hanswer]
          exact ⟨1, .answered hfirst (.nil notes) hhook hnull, rfl⟩

/-! ## 4. The order of the stages -/

/-- The place of a stage: its kind and, among hooks, its number. -/
def Stage.place : Stage → Nat × Nat
  | authentication => (0, 0)
  | permissions => (1, 0)
  | validation => (2, 0)
  | hook index => (3, index)
  | handler => (4, 0)
  | errorHook index => (5, index)

/-- One stage is before another.  None is before itself. -/
def Stage.Before (a b : Stage) : Prop :=
  a.place.1 < b.place.1 ∨ a.place.1 = b.place.1 ∧ a.place.2 < b.place.2

/-- The stages of the hooks. -/
theorem stages_hookSteps (r : Request) (first : Nat) (hooks : List Hook) :
    (hookSteps r first hooks).map Step.stage = (List.range' first hooks.length).map .hook := by
  rw [hookSteps, List.map_map, ← List.zipIdx_map_snd first hooks, List.map_map]
  rfl

/-- Numbered stages are in the order of their numbers. -/
theorem pairwise_numbered {numbered : Nat → Stage} {kind : Nat}
    (h : ∀ i, (numbered i).place = (kind, i)) (first n : Nat) :
    ((List.range' first n).map numbered).Pairwise Stage.Before := by
  rw [List.pairwise_map]
  refine List.Pairwise.imp ?_ List.pairwise_lt_range'
  intro i j hij
  exact Or.inr (by simp [h, hij])

/-- The steps that let a caller in are the stages before one is served. -/
theorem stages_entrySteps (e : Endpoint) (trust : Trust) (r : Request) (now : Instant) :
    (e.entrySteps trust r now).map Step.stage = e.entry := by
  rw [entrySteps, entry]
  split <;> rfl

/-- The steps of a request are in order, and error hooks come after them. -/
theorem pairwise_steps (e : Endpoint) (trust : Trust) (r : Request) (now : Instant) (n : Nat) :
    ((e.steps trust r now).map Step.stage
      ++ (List.range n).map Stage.errorHook).Pairwise Stage.Before := by
  have hhooks : ((List.range' 0 e.hooks.length).map Stage.hook).Pairwise Stage.Before :=
    pairwise_numbered (fun _ => rfl) 0 e.hooks.length
  have herrors : ((List.range n).map Stage.errorHook).Pairwise Stage.Before := by
    rw [List.range_eq_range']
    exact pairwise_numbered (fun _ => rfl) 0 n
  rw [steps, List.map_append, stages_entrySteps, serviceSteps, List.map_cons, List.map_append,
    stages_hookSteps, entry]
  -- Stages of different kinds are compared by their kinds alone.
  split <;>
    simp [List.pairwise_append, hhooks, herrors, Stage.Before, Stage.place, validating, handling,
      or_imp, forall_and]

/-! ## 5. The course -/

/-- The payload that is known is the validated one if validation succeeds, and none otherwise. -/
inductive Sees (e : Endpoint) (r : Request) (k : Known) : Prop
  | validated (h : e.validate (k.request r) = .ok k.payload)
  | unvalidated {fault : Fault} (h : e.validate (k.request r) = .error fault)
      (payload : k.payload = none)

/-- The course of a request: all steps succeed, or one of those that let a caller in fails, or one
that serves the caller fails and the error hooks recover it. -/
inductive Course (e : Endpoint) (trust : Trust) (r : Request) (now : Instant) :
    List Stage → Except Fault Json → Prop
  | answered {stages : List Stage} {k : Known}
      (runs : Runs {} (e.steps trust r now) stages (.ok ()) k) :
      Course e trust r now stages (.ok k.answer)
  | turnedAway {stages : List Stage} {k : Known} {fault : Fault}
      (runs : Runs {} (e.steps trust r now) stages (.error fault) k)
      (early : .validation ∉ stages) : Course e trust r now stages (.error fault)
  | failed {stages : List Stage} {k : Known} {fault : Fault} {n : Nat}
      {outcome : Except Fault Json}
      (runs : Runs {} (e.steps trust r now) stages (.error fault) k)
      (late : .validation ∈ stages) (sees : Sees e r k)
      (recovered : Recovered (k.context r) fault e.errorHooks k.notes n outcome) :
      Course e trust r now (stages ++ (List.range n).map .errorHook) outcome

/-- A caller is let in as a principal that is permitted, or turned away. -/
theorem runs_entrySteps (e : Endpoint) (trust : Trust) (r : Request) (now : Instant) :
    (∃ p, (attach trust e.strategy e.acceptInvalid r now).outcome = .ok p
        ∧ requirePermissions e.permissions p = .ok p
        ∧ Runs {} (e.entrySteps trust r now) e.entry (.ok ()) { principal := p })
      ∨ ∃ fault k, Runs {} (e.entrySteps trust r now) (e.run trust r now).stages (.error fault) k
        ∧ .validation ∉ (e.run trust r now).stages
        ∧ (e.run trust r now).outcome = .error fault := by
  cases hattach : (attach trust e.strategy e.acceptInvalid r now).outcome with
  | error fault =>
    refine Or.inr ⟨fault, {}, ?_⟩
    simp only [run, hattach]
    refine ⟨.stopped ?_, by simp, trivial⟩
    simp only [authenticating, Known.attempt, hattach]
  | ok p =>
    have hauthenticates : (authenticating e trust r now).perform {}
        = (.ok (), { principal := p }) := by
      simp only [authenticating, Known.attempt, hattach]
    cases hpermitted : requirePermissions e.permissions p with
    | error fault =>
      have hsome : e.permissions.isEmpty = false := by
        cases hpermissions : e.permissions with
        | nil =>
          rw [hpermissions] at hpermitted
          cases hpermitted
        | cons _ _ => rfl
      refine Or.inr ⟨fault, { principal := p }, ?_⟩
      simp only [run, hattach, hpermitted, entry, entrySteps, hsome, Bool.false_eq_true, if_false]
      refine ⟨.next hauthenticates (.stopped ?_), by simp, trivial⟩
      simp only [permitting, Known.attempt, hpermitted]
    | ok q =>
      obtain rfl := requirePermissions_ok hpermitted
      refine Or.inl ⟨q, rfl, hpermitted, ?_⟩
      rw [entrySteps, entry]
      split
      · exact .next hauthenticates (.done _)
      · refine .next hauthenticates (.next ?_ (.done _))
        simp only [permitting, Known.attempt, hpermitted]

/-- What serving a caller comes to: all steps succeed, or one fails and the error hooks recover
it. -/
inductive Serves (e : Endpoint) (r : Request) (k : Known) (served : Progress Json) : Prop
  | answered {k' : Known} (runs : Runs k (e.serviceSteps r) served.stages (.ok ()) k')
      (answer : served.outcome = .ok k'.answer)
  | failed {stages : List Stage} {k' : Known} {fault : Fault} {n : Nat}
      (runs : Runs k (e.serviceSteps r) stages (.error fault) k') (late : .validation ∈ stages)
      (sees : Sees e r k')
      (recovered : Recovered (k'.context r) fault e.errorHooks k'.notes n served.outcome)
      (entered : served.stages = stages ++ (List.range n).map .errorHook)

/-- A step that fails is recovered by the error hooks, in their turn. -/
theorem Serves.of_recover {e : Endpoint} {r : Request} {k k' : Known} {stages : List Stage}
    {fault : Fault} (runs : Runs k (e.serviceSteps r) stages (.error fault) k')
    (late : .validation ∈ stages) (sees : Sees e r k') :
    Serves e r k (e.recover (k'.context r) fault stages k'.notes) := by
  obtain ⟨n, hrecovered, hstages⟩ :=
    recovered_runErrorHooks (k'.context r) fault e.errorHooks 0 k'.notes
  rw [← List.range_eq_range'] at hstages
  exact .failed runs late sees hrecovered (congrArg (stages ++ ·) hstages)

/-- A caller is served. -/
theorem serves_serve (e : Endpoint) (r : Request) (p : Principal) :
    Serves e r { principal := p } (e.serve { r with identity := .principal p } p) := by
  let k : Known := { principal := p }
  have hrequest : { r with identity := .principal p } = k.request r := rfl
  rw [hrequest, serve]
  cases hvalidate : e.validate (k.request r) with
  | error fault =>
    have hfails : (validating e r).perform k = (.error fault, k) := by
      simp only [validating, Known.attempt, hvalidate]
    exact .of_recover (.stopped hfails) (List.mem_singleton_self _) (.unvalidated hvalidate rfl)
  | ok payload =>
    have hvalidates : (validating e r).perform k = (.ok (), { k with payload }) := by
      simp only [validating, Known.attempt, hvalidate]
    have hhooks := runs_hookSteps r e.hooks 0 { k with payload }
    have hctx : (⟨k.request r, p, payload⟩ : Context) = Known.context { k with payload } r := rfl
    simp only [hctx]
    generalize hhooked : runHooks (Known.context { k with payload } r) 0 e.hooks [] = hooked
      at hhooks
    cases hended : hooked.outcome with
    | error fault =>
      simp only [hended] at hhooks
      have hruns : Runs k (e.serviceSteps r) (.validation :: hooked.stages) (.error fault)
          { k with payload, notes := hooked.notes } :=
        .next hvalidates (hhooks.append_of_error _)
      exact .of_recover hruns List.mem_cons_self (.validated hvalidate)
    | ok u =>
      simp only [hended] at hhooks
      cases hanswer : call (e.handler (Known.context { k with payload } r)) hooked.notes with
      | mk result notes =>
        cases result with
        | ok answer =>
          have hruns : Runs k (e.serviceSteps r) (.validation :: (hooked.stages ++ [.handler]))
              (.ok ()) { k with payload, notes, answer } :=
            .next hvalidates (hhooks.append (.next (perform_handling hanswer) (.done _)))
          exact .answered hruns rfl
        | error fault =>
          have hruns : Runs k (e.serviceSteps r) (.validation :: (hooked.stages ++ [.handler]))
              (.error fault) { k with payload, notes } :=
            .next hvalidates (hhooks.append (.stopped (perform_handling_error hanswer)))
          exact .of_recover hruns List.mem_cons_self (.validated hvalidate)

/-- What is entered and what comes of it is a course. -/
theorem course_run (e : Endpoint) (trust : Trust) (r : Request) (now : Instant) :
    Course e trust r now (e.run trust r now).stages (e.run trust r now).outcome := by
  rcases runs_entrySteps e trust r now with
    ⟨p, hattach, hpermitted, hentry⟩ | ⟨fault, k, hruns, hearly, houtcome⟩
  case inr =>
    rw [houtcome]
    exact .turnedAway (hruns.append_of_error _) hearly
  have hserves := serves_serve e r p
  have hrun : (e.run trust r now).stages
        = e.entry ++ (e.serve { r with identity := .principal p } p).stages
      ∧ (e.run trust r now).outcome = (e.serve { r with identity := .principal p } p).outcome := by
    simp only [run, hattach, hpermitted, and_self]
  rw [hrun.1, hrun.2]
  cases hserves with
  | answered runs answer =>
    rw [answer]
    exact .answered (hentry.append runs)
  | failed runs late sees recovered entered =>
    rw [entered, ← List.append_assoc]
    exact .failed (hentry.append runs) (List.mem_append_right _ late) sees recovered

/-- The stages of a course are in order. -/
theorem Course.pairwise {e : Endpoint} {trust : Trust} {r : Request} {now : Instant}
    {stages : List Stage} {outcome : Except Fault Json} (h : Course e trust r now stages outcome) :
    stages.Pairwise Stage.Before := by
  have horder : ∀ {n stages outcome k}, Runs {} (e.steps trust r now) stages outcome k →
      (stages ++ (List.range n).map Stage.errorHook).Pairwise Stage.Before := fun hruns =>
    (pairwise_steps e trust r now _).sublist
      (hruns.stages_prefix.sublist.append (List.Sublist.refl _))
  cases h with
  | answered runs => exact (List.pairwise_append.mp (horder runs (n := 0))).1
  | turnedAway runs _ => exact (List.pairwise_append.mp (horder runs (n := 0))).1
  | failed runs _ _ _ => exact horder runs

/-- **A request takes its course**: its stages are in order, none of them twice, and what is entered
and what comes of it are the steps in turn and, of a failure from validation on, its recovery.
Authentication succeeds with the principal it finds, and with an anonymous one only where refused
callers may go on and the failure is a refusal. -/
theorem run_course (e : Endpoint) (trust : Trust) (r : Request) (now : Instant) :
    (e.run trust r now).stages.Pairwise Stage.Before
      ∧ Course e trust r now (e.run trust r now).stages (e.run trust r now).outcome
      ∧ ∀ p, (attach trust e.strategy e.acceptInvalid r now).outcome = .ok p
        ↔ (authenticate trust e.strategy r now).outcome = .ok p
          ∨ e.acceptInvalid = true ∧ p = .anonymous ∧ ∃ fault event,
            (authenticate trust e.strategy r now).outcome = .error fault ∧ fault.isWeb = true
              ∧ Report.fault fault (some r) = .ok event :=
  ⟨(course_run e trust r now).pairwise, course_run e trust r now, fun _ => attach_ok_iff⟩

/-- An endpoint that lets refused callers go on.  Its handler ends an iteration, and its error hook
answers with the kind of the failure that it sees. -/
def exhaustedEndpoint : Endpoint where
  path := "/"
  method := .get
  handler := fun _ notes => (.error (.plain .exhausted "no more orders"), notes)
  strategy := .hmac (some "secret") true
  acceptInvalid := true
  errorHooks := [fun _ fault notes => (.ok (.text fault.name), notes)]

/-- A request without a signature. -/
def plainRequest (query : Text) : Request where
  method := "GET"
  path := "/"
  query := query
  headers := []
  body := []
  tls := .null
  client := none
  identity := .absent

/-- A trust in nothing. -/
def noTrust : Trust where
  tokens := ⟨none, fun _ => none, []⟩
  signatureSecret := none
  static := none
  verification := none
  transport := ⟨none, none, none, [], false⟩

/-- The error hook does not see the end of an iteration as such, but as another failure.  And a
caller who is refused does not go on although refused callers may, if the query is in no encoding and
so the refusal cannot be reported. -/
theorem run_exhaustedEndpoint :
    (∀ ctx notes, (exhaustedEndpoint.handler ctx notes).1
        = .error (.plain .exhausted "no more orders"))
      ∧ (exhaustedEndpoint.run noTrust (plainRequest []) 0).stages
        = [.authentication, .validation, .handler, .errorHook 0]
      ∧ (exhaustedEndpoint.run noTrust (plainRequest []) 0).outcome
        = .ok (.text (Fault.Kind.name .runtime))
      ∧ exhaustedEndpoint.acceptInvalid = true
      ∧ ∃ fault, (authenticate noTrust exhaustedEndpoint.strategy
          (plainRequest [CodePoint.ofNat 0xFF]) 0).outcome = .error fault
        ∧ fault.isWeb = true
        ∧ (exhaustedEndpoint.run noTrust (plainRequest [CodePoint.ofNat 0xFF]) 0).stages
          = [.authentication]
        ∧ (exhaustedEndpoint.run noTrust (plainRequest [CodePoint.ofNat 0xFF]) 0).outcome
          = .error (.ofKind .decoding) :=
  ⟨fun _ _ => rfl, rfl, rfl, rfl, _, rfl, rfl, rfl, rfl⟩

/-- The first hook fails, so the second one and the handler are not entered; of three error hooks
the first declines and the second answers. -/
example (trust : Trust) (r : Request) (now : Instant) :
    let fails : Hook := fun _ notes => (.error (.ofKind .value), notes)
    let declines : ErrorHook := fun _ _ notes => (.ok .null, notes)
    let answers : ErrorHook := fun _ _ notes => (.ok (.bool false), notes)
    let e : Endpoint := {
      path := "/", method := .get, handler := fun _ notes => (.ok .null, notes)
      hooks := [fails, fails], errorHooks := [declines, answers, declines] }
    (e.run trust r now).stages
        = [.authentication, .validation, .hook 0, .errorHook 0, .errorHook 1]
      ∧ (e.run trust r now).outcome = .ok (.bool false) :=
  ⟨rfl, rfl⟩

end Endpoint

end Portcullis
