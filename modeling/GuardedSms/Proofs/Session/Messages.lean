import GuardedSms.Notifier.Stub
import GuardedSms.Proofs.Notifier.Parallel
import GuardedSms.Proofs.Session.Accounting

/-!
# What a message can change

The text of a message is passed on and nothing else. In two runs that differ in the messages of
their steps only, the validators are asked the same and answer the same, the same numbers are sent
to, the same rejections are logged, and all of it in the same order. What differs are the messages
that are sent or prepared. They differ as those of the steps do: for any relation between messages,
steps with related messages lead to deliveries with related messages.

A delivery that a step is given in its JSON form is no message of the step, so it stays the same.

## Main definitions

* `Step.Reworded`, `Delivery.Reworded`, `Entry.Reworded`, `Answer.Reworded`: equal but for messages
  that are related.
* `Retold`: two runs whose answers and entries are equal but for such messages.

## Main statements

* `rewordedStep_step`: one step with another message.
* `retold_runSteps`: a run of steps with other messages.
-/
namespace GuardedSms

variable {M : String → String → Prop}

/-! ## Other words -/

inductive Delivery.Reworded (M : String → String → Prop) : Delivery → Delivery → Prop
  | send (number : String) {message message' : String} (h : M message message') :
    Reworded M (.send number message) (.send number message')
  | log (text : String) : Reworded M (.log text) (.log text)

inductive Entry.Reworded (M : String → String → Prop) : Entry → Entry → Prop
  | validated (name number region : String) :
    Reworded M (.validated name number region) (.validated name number region)
  | sent (name number : String) {message message' : String} (h : M message message') :
    Reworded M (.sent name number message) (.sent name number message')
  | logged (name text : String) : Reworded M (.logged name text) (.logged name text)

theorem Delivery.Reworded.refl (d : Delivery) : Reworded Eq d d := by
  cases d with
  | send number message => exact .send number rfl
  | log text => exact .log text

/-- What a screening leads to is worded by the message if it is sent, and only then. -/
theorem Delivery.Reworded.deliveryOf {message message' : String} (h : M message message')
    (outcome : Outcome String) :
    Reworded M (Notifier.deliveryOf message outcome) (Notifier.deliveryOf message' outcome) := by
  cases outcome with
  | success number => exact .send number h
  | failure reason => exact .log _

/-- A recording notifier is its own twin, whatever relates the messages that it delivers. -/
theorem Notifier.twins_recorded {σ : Type} (M : String → String → Prop)
    (validator sender logger : String) (v : Validator σ) :
    Twins Eq (Entry.Reworded M) (Delivery.Reworded M) (recorded validator sender logger v)
      (recorded validator sender logger v) where
  validator number region := by
    refine (parallel_record (.validated validator number region)).bind fun _ _ _ => ?_
    refine parallel_beside ?_
    rintro s _ rfl
    exact ⟨rfl, rfl, rfl⟩
  perform d d' h := by
    cases h with
    | send number h => exact parallel_record (.sent sender number h)
    | log text => exact parallel_record (.logged logger text)

namespace Session

variable {σ : Type}

/-! ## Steps with other messages -/

inductive Request.Reworded (M : String → String → Prop) : Request → Request → Prop
  | screen (number : Option String) (region : String) :
    Reworded M (.screen number region) (.screen number region)
  | notify (number : Option String) (region : String) {message message' : String}
    (h : M message message') :
    Reworded M (.notify number region message) (.notify number region message')
  | prepare (number : Option String) (region : String) {message message' : String}
    (h : M message message') :
    Reworded M (.prepare number region message) (.prepare number region message')
  | perform (index : Nat) : Reworded M (.perform index) (.perform index)
  | performJson (json : Json) : Reworded M (.performJson json) (.performJson json)
  | postpone (number : Option String) (region : String) {message message' : String}
    (h : M message message') :
    Reworded M (.postpone number region message) (.postpone number region message')

inductive Step.Reworded (M : String → String → Prop) : Step → Step → Prop
  | ask (notifier : Nat) {request request' : Request} (h : request.Reworded M request') :
    Reworded M (.ask notifier request) (.ask notifier request')
  | run (index : Nat) : Reworded M (.run index) (.run index)
  | drop (index : Nat) : Reworded M (.drop index) (.drop index)

inductive Answer.Reworded (M : String → String → Prop) : Answer → Answer → Prop
  | nothing : Reworded M .nothing .nothing
  | outcome (outcome : Outcome String) : Reworded M (.outcome outcome) (.outcome outcome)
  | prepared {d d' : Delivery} (h : d.Reworded M d') : Reworded M (.prepared d) (.prepared d')
  | postponed (index : Nat) : Reworded M (.postponed index) (.postponed index)
  | outOfRange : Reworded M .outOfRange .outOfRange
  | spent : Reworded M .spent .spent
  | noNotifier : Reworded M .noNotifier .noNotifier
  | unreadable (fault : Json.Fault) : Reworded M (.unreadable fault) (.unreadable fault)

/-- How the messages that a step sends may differ: not at all if its delivery is given. -/
def Step.wording (M : String → String → Prop) : Step → String → String → Prop
  | .ask _ (.performJson _) => Eq
  | _ => M

/-! ## One step -/

/-- Two sessions with the same validators, in which the same was prepared and postponed but for the
messages. -/
structure RewordedSession (M : String → String → Prop) (s t : Session (Recorded σ)) : Prop where
  state : s.world.state = t.world.state
  prepared : List.Forall₂ (Delivery.Reworded M) s.prepared t.prepared
  postponed : List.Forall₂ (Option.Rel (Parallel Eq (Entry.Reworded M) Eq)) s.postponed t.postponed

/-- What two steps have in common that differ in their messages. The entries they add may differ in
messages, too, but in some other way. -/
structure RewordedStep (M K : String → String → Prop) (s t : Session (Recorded σ))
    (r q : Ran (Session (Recorded σ)) Answer) : Prop where
  value : Answer.Reworded M r.value q.value
  session : RewordedSession M r.state q.state
  entries : ∃ es fs, r.state.world.entries = s.world.entries ++ es ∧
    q.state.world.entries = t.world.entries ++ fs ∧ List.Forall₂ (Entry.Reworded K) es fs
  events : r.events = q.events

/-- A step that adds no entries. -/
theorem RewordedStep.silent {K : String → String → Prop} {s t s' t' : Session (Recorded σ)}
    {a b : Answer} (value : a.Reworded M b) (session : RewordedSession M s' t')
    (same : s'.world.entries = s.world.entries) (same' : t'.world.entries = t.world.entries) :
    RewordedStep M K s t ⟨a, s', []⟩ ⟨b, t', []⟩ :=
  ⟨value, session, ⟨[], [], by simp [same], by simp [same'], .nil⟩, rfl⟩

/-- The answer to a request with another message. -/
theorem rewordedStep_answer (a : Nat) (l : Labels) (v : Validator σ) {request request' : Request}
    (h : request.Reworded M request') {s t : Session (Recorded σ)} (like : RewordedSession M s t) :
    let n := Notifier.recorded l.validator l.sender l.logger v
    RewordedStep M (Step.wording M (.ask a request)) s t ((answer n request).run s)
      ((answer n request').run t) := by
  intro n
  obtain ⟨state, prepared, postponed⟩ := like
  have twins := Notifier.twins_recorded M l.validator l.sender l.logger v
  cases h with
  | screen number region =>
    obtain ⟨value, state, entries, events⟩ := twins.screen number region _ _ state
    refine ⟨?value, ⟨state, prepared, postponed⟩, entries, by simp [answer, n, events]⟩
    case value =>
      simp only [answer, Action.run_bind, run_inWorld, Action.run_pure, n, value]
      exact .outcome _
  | notify number region h =>
    obtain ⟨-, state, entries, events⟩ :=
      twins.notify (Delivery.Reworded.deliveryOf h) number region _ _ state
    exact ⟨.nothing, ⟨state, prepared, postponed⟩, entries, by simp [answer, n, events]⟩
  | prepare number region h =>
    obtain ⟨value, state, entries, events⟩ :=
      twins.prepare (Delivery.Reworded.deliveryOf h) number region _ _ state
    have more := List.rel_append prepared (.cons value .nil)
    exact ⟨.prepared value, ⟨state, more, postponed⟩, entries, by simp [answer, n, events]⟩
  | perform index =>
    have found := forall₂_getElem? prepared index
    simp only [answer, Action.run_bind, Action.run_get]
    generalize s.prepared[index]? = d, t.prepared[index]? = d' at found ⊢
    cases found with
    | none => exact .silent .outOfRange ⟨state, prepared, postponed⟩ rfl rfl
    | some reworded =>
      obtain ⟨-, state, entries, events⟩ := twins.perform _ _ reworded _ _ state
      exact ⟨.nothing, ⟨state, prepared, postponed⟩, entries, by simp [n, events]⟩
  | performJson json =>
    -- The delivery is the same on both sides, so its entry is, too.
    have itself := Notifier.twins_recorded Eq l.validator l.sender l.logger v
    simp only [answer]
    cases Delivery.decode json.text with
    | error fault => exact .silent (.unreadable fault) ⟨state, prepared, postponed⟩ rfl rfl
    | ok d =>
      obtain ⟨-, state, entries, events⟩ := itself.perform d d (.refl d) _ _ state
      exact ⟨.nothing, ⟨state, prepared, postponed⟩, entries, by simp [n, events]⟩
  | postpone number region h =>
    obtain ⟨value, state, entries, events⟩ :=
      twins.postpone (Delivery.Reworded.deliveryOf h) number region _ _ state
    have more := List.rel_append postponed (.cons (.some value) .nil)
    refine ⟨?value, ⟨state, prepared, more⟩, entries, by simp [answer, n, events]⟩
    case value =>
      simp only [answer, Action.run_bind, Action.run_get, Action.run_pure, run_inWorld,
        postponed.length_eq]
      exact .postponed _

/-- A step with another message. -/
theorem rewordedStep_step (labels : Nat → Option Labels) (judges : Nat → Validator σ)
    {step step' : Step} (h : step.Reworded M step') {s t : Session (Recorded σ)}
    (like : RewordedSession M s t) :
    RewordedStep M (step.wording M) s t
      ((Session.step (recordedFamily labels judges) step).run s)
      ((Session.step (recordedFamily labels judges) step').run t) := by
  cases h with
  | ask a h =>
    cases known : labels a with
    | none =>
      rw [step_ask_of_none known, step_ask_of_none known]
      exact .silent .noNotifier like rfl rfl
    | some l =>
      rw [step_ask_of_some known, step_ask_of_some known]
      exact rewordedStep_answer a l (judges a) h like
  | run index =>
    obtain ⟨state, prepared, postponed⟩ := like
    have left := forall₂_getElem? postponed index
    rw [run_step_run, run_step_run]
    generalize s.postponed[index]? = action, t.postponed[index]? = action' at left ⊢
    cases left with
    | none => exact .silent .spent ⟨state, prepared, postponed⟩ rfl rfl
    | some open? =>
      cases open? with
      | none => exact .silent .spent ⟨state, prepared, postponed⟩ rfl rfl
      | some parallel =>
        obtain ⟨-, state, entries, events⟩ := parallel _ _ state
        have fewer := forall₂_set_none postponed index
        exact ⟨.nothing, ⟨state, prepared, fewer⟩, entries, events⟩
  | drop index =>
    obtain ⟨state, prepared, postponed⟩ := like
    have fewer := forall₂_set_none postponed index
    exact .silent .nothing ⟨state, prepared, fewer⟩ rfl rfl

/-! ## Runs -/

/-- The answers of two runs and the entries that each step added, equal but for messages. -/
inductive Retold (M : String → String → Prop) :
    List Step → List (Answer × List Entry) → List (Answer × List Entry) → Prop
  | nil : Retold M [] [] []
  | cons {step : Step} {steps : List Step} {a b : Answer} {es fs : List Entry}
    {results results' : List (Answer × List Entry)} (answer : a.Reworded M b)
    (entries : List.Forall₂ (Entry.Reworded (step.wording M)) es fs)
    (rest : Retold M steps results results') :
    Retold M (step :: steps) ((a, es) :: results) ((b, fs) :: results')

/-- What two runs have in common whose steps differ in their messages. -/
structure RewordedRun (M : String → String → Prop) (steps : List Step) (w u : Recorded σ)
    (r q : Ran (Session (Recorded σ)) (List (Answer × List Entry))) : Prop where
  /-- Step by step the answers and the entries are the same but for the messages. -/
  results : Retold M steps r.value q.value
  /-- The journals hold the entries of the steps, in the order of the steps. -/
  journal : r.state.world.entries = w.entries ++ r.value.flatMap Prod.snd
  journal' : q.state.world.entries = u.entries ++ q.value.flatMap Prod.snd
  /-- The validators are left in the same state, and so is all that was prepared or postponed, but
  for the messages. -/
  session : RewordedSession M r.state q.state
  events : r.events = q.events

/-- From sessions that are the same but for the messages, runs are the same but for them, too. -/
theorem rewordedRun_runSteps (labels : Nat → Option Labels) (judges : Nat → Validator σ)
    {steps steps' : List Step} (h : List.Forall₂ (Step.Reworded M) steps steps')
    {s t : Session (Recorded σ)} (like : RewordedSession M s t) :
    RewordedRun M steps s.world t.world
      ((runSteps (recordedFamily labels judges) steps).run s)
      ((runSteps (recordedFamily labels judges) steps').run t) := by
  induction h generalizing s t with
  | nil => exact ⟨.nil, by simp [runSteps], by simp [runSteps], like, rfl⟩
  | @cons step step' steps steps' first _ ih =>
    obtain ⟨answer, like', ⟨es, fs, added, added', entries⟩, events⟩ :=
      rewordedStep_step labels judges first like
    obtain ⟨results, journal, journal', final, events'⟩ := ih like'
    refine ⟨?results, ?journal, ?journal', ?session, ?events⟩
    case results =>
      rw [value_runSteps_cons, value_runSteps_cons, added, added', List.drop_left, List.drop_left]
      exact .cons answer entries results
    case journal =>
      rw [state_runSteps_cons, value_runSteps_cons, journal, List.flatMap_cons, added]
      simp
    case journal' =>
      rw [state_runSteps_cons, value_runSteps_cons, journal', List.flatMap_cons, added']
      simp
    case session =>
      rw [state_runSteps_cons, state_runSteps_cons]
      exact final
    case events => rw [events_runSteps_cons, events_runSteps_cons, events, events']

/-- The messages of a run reach what is sent and prepared, and nothing else. -/
theorem retold_runSteps (labels : Nat → Option Labels) (judges : Nat → Validator σ)
    {steps steps' : List Step} (h : List.Forall₂ (Step.Reworded M) steps steps')
    (w : Recorded σ) :
    RewordedRun M steps w w
      ((runSteps (recordedFamily labels judges) steps).run { world := w })
      ((runSteps (recordedFamily labels judges) steps').run { world := w }) :=
  have start : RewordedSession M (Session.mk w [] []) (Session.mk w [] []) := ⟨rfl, .nil, .nil⟩
  rewordedRun_runSteps labels judges h start

/-- Two notifiers that share a scripted validator, which accepts every other number. -/
def scriptedPair (a : Nat) : Option Labels := if a < 2 then some ⟨"V", "S", "L"⟩ else none

def scripted (_ : Nat) : Validator Usage :=
  Stub.validator { script := [.ok true, .ok false, .ok true] } (.shared "V")

/-- Three messages in three forms, and a delivery that is given. -/
def threeMessages (first second third : String) : List Step :=
  [.ask 0 (.notify (some "+1") "FR" first), .ask 1 (.prepare (some "+2") "FR" second),
    .ask 0 (.postpone (some "+3") "FR" third), .ask 1 (.perform 0), .run 0,
    .ask 1 (.performJson (Delivery.send "+4" "a").toJson)]

/-- The words of three messages and what they are replaced by. -/
def OtherWords (message message' : String) : Prop :=
  (message, message') ∈ [("a", "x"), ("b", ""), ("c", "a")]

theorem retold_runSteps_threeMessages :
    List.Forall₂ (Step.Reworded OtherWords) (threeMessages "a" "b" "c")
        (threeMessages "x" "" "a") ∧
      RewordedRun OtherWords (threeMessages "a" "b" "c") (.start Usage.none) (.start Usage.none)
        ((runSteps (recordedFamily scriptedPair scripted) (threeMessages "a" "b" "c")).run
          { world := .start Usage.none })
        ((runSteps (recordedFamily scriptedPair scripted) (threeMessages "x" "" "a")).run
          { world := .start Usage.none }) := by
  have first : OtherWords "a" "x" := by simp [OtherWords]
  have second : OtherWords "b" "" := by simp [OtherWords]
  have third : OtherWords "c" "a" := by simp [OtherWords]
  have reworded : List.Forall₂ (Step.Reworded OtherWords) (threeMessages "a" "b" "c")
      (threeMessages "x" "" "a") :=
    .cons (.ask 0 (.notify _ _ first)) (.cons (.ask 1 (.prepare _ _ second))
      (.cons (.ask 0 (.postpone _ _ third)) (.cons (.ask 1 (.perform 0))
        (.cons (.run 0) (.cons (.ask 1 (.performJson _)) .nil)))))
  exact ⟨reworded, retold_runSteps scriptedPair scripted reworded (.start Usage.none)⟩

end Session

end GuardedSms
