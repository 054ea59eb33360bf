import GuardedSms.Notifier.Stub
import GuardedSms.Proofs.Notifier.Parallel
import GuardedSms.Proofs.Session.Accounting
import GuardedSms.Proofs.Session.Shares
import Mathlib.Logic.Function.Basic

/-!
# Independent notifiers

Notifiers that share no validator, sender or logger do not interfere. Take notifiers on several
sides, so that those on one side have validators and names of their own, and a sequence of steps
for each side. However the steps of all sides are interleaved, each side gets the answers, the
entries in the journal and the validators that it gets when its steps are taken alone.

Each side counts the deliveries that it prepared or postponed on its own. In an interleaved run
they stand among those of all sides, so a step that names one of them by its number has to name its
place there.

## Main definitions

* `together`, `alone`: the notifiers of all sides, and those of one side.
* `Apart`: the sides have no names in common.
* `interleaved`: the steps of all sides as one run.
* `Moved`: a step of one side, in a run of all sides and in a run of its own.

## Main statements

* `moved_step`: a step of one side acts on that side as if it were alone, and on no other.
* `undisturbed_runSteps`: so does a run, for each of the sides.
-/
namespace GuardedSms

variable {ι : Type} {σ : ι → Type} {α β : Type}

/-- The entry bears a name of the notifier with these labels. -/
def Entry.IsBy (l : Labels) : Entry → Prop
  | validated name .. => name = l.validator
  | sent name .. => name = l.sender
  | logged name _ => name = l.logger

/-- The entry bears a name of a notifier of one side. -/
def Entry.IsOf (labels : Nat → Option Labels) (side : Nat → ι) (i : ι) (e : Entry) : Prop :=
  ∃ a l, side a = i ∧ labels a = some l ∧ e.IsBy l

/-- The validator of one side, in the states of all sides. -/
def Validator.onSide [DecidableEq ι] (i : ι) (v : Validator (σ i)) :
    Validator ((j : ι) → σ j) := fun number region =>
  (v number region).focus (fun w => w i) fun s w => Function.update w i s

namespace Session

/-! ## Sides -/

section Sides

variable (labels : Nat → Option Labels) (side : Nat → ι)
variable (judges : (i : ι) → Nat → Validator (σ i))

/-- The notifiers of all sides. The validator of each acts on the state of its side. -/
def together [DecidableEq ι] : Nat → Option (Notifier (Recorded ((i : ι) → σ i))) :=
  recordedFamily labels fun a => (judges (side a) a).onSide (side a)

/-- The notifiers of one side, where the others are missing. -/
def alone [DecidableEq ι] (i : ι) : Nat → Option (Notifier (Recorded (σ i))) :=
  recordedFamily (fun a => if side a = i then labels a else none) (judges i)

/-- Notifiers of different sides have different validators, senders and loggers. -/
def Apart : Prop :=
  ∀ a b l m, labels a = some l → labels b = some m → side a ≠ side b →
    l.validator ≠ m.validator ∧ l.sender ≠ m.sender ∧ l.logger ≠ m.logger

open scoped Classical in
/-- The entries of one side in a journal. -/
noncomputable def journalOf (i : ι) (entries : List Entry) : List Entry :=
  entries.filter fun e => e.IsOf labels side i

variable {labels side}

/-- Where names are not shared, no entry is of two sides. -/
theorem Apart.unique (apart : Apart labels side) {e : Entry} {i j : ι}
    (first : e.IsOf labels side i) (second : e.IsOf labels side j) : i = j := by
  obtain ⟨a, l, rfl, known, by_a⟩ := first
  obtain ⟨b, m, rfl, known', by_b⟩ := second
  by_contra different
  obtain ⟨validator, sender, logger⟩ := apart a b l m known known' different
  cases e with
  | validated => exact validator (by_a.symm.trans by_b)
  | sent => exact sender (by_a.symm.trans by_b)
  | logged => exact logger (by_a.symm.trans by_b)

theorem journalOf_own {i : ι} {es : List Entry} (own : ∀ e ∈ es, e.IsOf labels side i) :
    journalOf labels side i es = es := by
  rw [journalOf, List.filter_eq_self]
  simpa using own

theorem journalOf_other (apart : Apart labels side) {i j : ι} (other : j ≠ i) {es : List Entry}
    (own : ∀ e ∈ es, e.IsOf labels side i) : journalOf labels side j es = [] := by
  rw [journalOf, List.filter_eq_nil_iff]
  intro e mem isOf
  exact other (apart.unique (by simpa using isOf) (own e mem))

theorem journalOf_append (i : ι) (es fs : List Entry) :
    journalOf labels side i (es ++ fs) = journalOf labels side i es ++ journalOf labels side i fs :=
  List.filter_append ..

end Sides

/-! ## Actions of one side -/

section Actions

variable [DecidableEq ι] (labels : Nat → Option Labels) (side : Nat → ι) {i : ι}

/-- What changes in the world when one side acts, beside what changes when it acts alone. -/
structure ActedOn (i : ι) (w : Recorded ((j : ι) → σ j)) (u : Recorded (σ i))
    (w' : Recorded ((j : ι) → σ j)) (u' : Recorded (σ i)) : Prop where
  state : w'.state = Function.update w.state i u'.state
  entries : ∃ es, w'.entries = w.entries ++ es ∧ u'.entries = u.entries ++ es ∧
    ∀ e ∈ es, e.IsOf labels side i

/-- An action in the states of all sides that does on one side what another action does there
alone. -/
def ActsOn (i : ι) (V : α → β → Prop) (a : Action (Recorded ((j : ι) → σ j)) α)
    (b : Action (Recorded (σ i)) β) : Prop :=
  ∀ x, Parallel (fun w s => w = Function.update x i s)
    (fun e f => e.IsOf labels side i ∧ e = f) V a b

variable {labels side}

theorem ActedOn.refl {w : Recorded ((j : ι) → σ j)} {u : Recorded (σ i)}
    (same : w.state i = u.state) : ActedOn labels side i w u w u :=
  ⟨by rw [← same, Function.update_eq_self], [], by simp, by simp, by simp⟩

theorem ActsOn.run {V : α → β → Prop} {a : Action (Recorded ((j : ι) → σ j)) α}
    {b : Action (Recorded (σ i)) β} (acts : ActsOn labels side i V a b)
    (w : Recorded ((j : ι) → σ j)) (u : Recorded (σ i)) (same : w.state i = u.state) :
    V (a.run w).value (b.run u).value ∧
      ActedOn labels side i w u (a.run w).state (b.run u).state ∧
      (a.run w).events = (b.run u).events := by
  have start : w.state = Function.update w.state i u.state := by
    rw [← same, Function.update_eq_self]
  obtain ⟨value, state, ⟨es, fs, added, added', both⟩, events⟩ := acts w.state w u start
  obtain ⟨own, equal⟩ := (List.forall₂_and_left _ _).mp both
  obtain rfl : es = fs := by simpa [List.forall₂_eq_eq_eq] using equal
  exact ⟨value, ⟨state, es, added, added', own⟩, events⟩

/-- In the states of all sides a notifier is the twin of itself alone. -/
theorem twins_onSide {a : Nat} {l : Labels} (known : labels a = some l) (owner : side a = i)
    (v : Validator (σ i)) (x : (j : ι) → σ j) :
    Twins (fun w s => w = Function.update x i s) (fun e f => e.IsOf labels side i ∧ e = f) Eq
      (.recorded l.validator l.sender l.logger (v.onSide i))
      (.recorded l.validator l.sender l.logger v) where
  validator number region := by
    refine (parallel_record ⟨⟨a, l, owner, known, rfl⟩, rfl⟩).bind fun _ _ _ => ?_
    refine parallel_beside ?_
    rintro _ s rfl
    simp [Validator.onSide]
  perform d d' same := by
    subst same
    cases d with
    | send => exact parallel_record ⟨⟨a, l, owner, known, rfl⟩, rfl⟩
    | log => exact parallel_record ⟨⟨a, l, owner, known, rfl⟩, rfl⟩

end Actions

/-! ## Steps of one side among those of all -/

/-- The sides of all that was prepared and postponed. -/
structure Places (ι : Type) where
  prepared : List ι := []
  postponed : List ι := []

section Places

/-- The places after a step of one side. -/
def Places.after (labels : Nat → Option Labels) (p : Places ι) (i : ι) : Step → Places ι
  | .ask a (.prepare ..) =>
    if (labels a).isSome then { p with prepared := p.prepared ++ [i] } else p
  | .ask a (.postpone ..) =>
    if (labels a).isSome then { p with postponed := p.postponed ++ [i] } else p
  | _ => p

/-- The places after steps of all sides. -/
def Places.afterAll (labels : Nat → Option Labels) : Places ι → List (ι × Step) → Places ι
  | p, [] => p
  | p, (i, step) :: rest => (p.after labels i step).afterAll labels rest

theorem prefix_after (labels : Nat → Option Labels) (p : Places ι) (i : ι) (step : Step) :
    p.postponed <+: (p.after labels i step).postponed := by
  unfold Places.after
  split <;> try split
  all_goals simp

theorem prefix_afterAll (labels : Nat → Option Labels) (p : Places ι) (steps : List (ι × Step)) :
    p.postponed <+: (p.afterAll labels steps).postponed := by
  induction steps generalizing p with
  | nil => exact List.prefix_rfl
  | cons first rest ih => exact (prefix_after labels p first.1 first.2).trans (ih _)

end Places

section Steps

variable [DecidableEq ι]

/-- The request of one side as one of all. What it names by the number that it has on its side, it
names by its place. -/
def Request.placed (i : ι) (sides : List ι) : Request → Request
  | .perform k => .perform (place i sides k)
  | request => request

/-- The step of one side as a step of all. -/
def Step.placed (p : Places ι) (i : ι) : Step → Step
  | .ask a request => .ask a (request.placed i p.prepared)
  | .run k => .run (place i p.postponed k)
  | .drop k => .drop (place i p.postponed k)

/-- The answer that one side gets, as it is given among the answers of all. -/
def Answer.placed (i : ι) (sides : List ι) : Answer → Answer
  | .postponed k => .postponed (place i sides k)
  | answer => answer

/-- The steps of all sides as one run. -/
def interleaved (labels : Nat → Option Labels) : Places ι → List (ι × Step) → List Step
  | _, [] => []
  | p, (i, step) :: rest => step.placed p i :: interleaved labels (p.after labels i step) rest

/-- What one side postponed second of all may be the first that it postponed itself. -/
example : interleaved (fun _ => some ⟨"V", "S", "L"⟩) {}
    [(0, .ask 0 (.postpone none "FR" "a")), (1, .ask 1 (.postpone none "FR" "b")), (1, .run 0)] =
    [.ask 0 (.postpone none "FR" "a"), .ask 1 (.postpone none "FR" "b"), .run 1] := rfl

/-- The steps of one side. -/
def ownSteps (i : ι) (steps : List (ι × Step)) : List Step :=
  share i (steps.map Prod.fst) (steps.map Prod.snd)

/-- A step that asks no notifier of another side. -/
def Step.StaysOn (side : Nat → ι) (i : ι) : Step → Prop
  | .ask a _ => side a = i
  | .run _ | .drop _ => True

variable (labels : Nat → Option Labels) (side : Nat → ι)

/-- What a side has in a session of all sides is what it has in a session of its own. -/
structure Part (p : Places ι) (i : ι) (s : Session (Recorded ((j : ι) → σ j)))
    (t : Session (Recorded (σ i))) : Prop where
  state : s.world.state i = t.world.state
  journal : journalOf labels side i s.world.entries = t.world.entries
  prepared : share i p.prepared s.prepared = t.prepared
  postponed : List.Forall₂ (Option.Rel (ActsOn labels side i Eq)) (share i p.postponed s.postponed)
    t.postponed

/-- The places tell the side of each delivery that was prepared or postponed. -/
structure Places.Fit (p : Places ι) (s : Session (Recorded ((j : ι) → σ j))) : Prop where
  prepared : p.prepared.length = s.prepared.length
  postponed : p.postponed.length = s.postponed.length

/-- What a step of one side does in a session of all sides, beside what it does in a session of its
own: the same on its side and nothing on any other. -/
structure Moved (p p' : Places ι) (i : ι) (s : Session (Recorded ((j : ι) → σ j)))
    (t : Session (Recorded (σ i))) (r : Ran (Session (Recorded ((j : ι) → σ j))) Answer)
    (q : Ran (Session (Recorded (σ i))) Answer) : Prop where
  value : ∀ more, r.value = q.value.placed i (p'.postponed ++ more)
  world : ActedOn labels side i s.world t.world r.state.world q.state.world
  prepared : share i p'.prepared r.state.prepared = q.state.prepared
  postponed : List.Forall₂ (Option.Rel (ActsOn labels side i Eq))
    (share i p'.postponed r.state.postponed) q.state.postponed
  preparedElse : ChangedOn i p.prepared p'.prepared s.prepared r.state.prepared
  postponedElse : ChangedOn i p.postponed p'.postponed s.postponed r.state.postponed

variable {labels side} {p p' : Places ι} {i j : ι} {s : Session (Recorded ((j : ι) → σ j))}
variable {t : Session (Recorded (σ i))}
variable {r : Ran (Session (Recorded ((j : ι) → σ j))) Answer}
variable {q : Ran (Session (Recorded (σ i))) Answer}

theorem Moved.fit (moved : Moved labels side p p' i s t r q) : p'.Fit r.state :=
  ⟨moved.preparedElse.length, moved.postponedElse.length⟩

/-- After its step a side has in the session of all what it has in its own. -/
theorem Moved.part (moved : Moved labels side p p' i s t r q) (part : Part labels side p i s t) :
    Part labels side p' i r.state q.state := by
  obtain ⟨state, es, added, added', own⟩ := moved.world
  refine ⟨?state, ?journal, moved.prepared, moved.postponed⟩
  case state => rw [state, Function.update_self]
  case journal => rw [added, added', journalOf_append, part.journal, journalOf_own own]

/-- The step of one side changes nothing of another. -/
theorem Moved.part_other (moved : Moved labels side p p' i s t r q) (apart : Apart labels side)
    (other : j ≠ i) {u : Session (Recorded (σ j))} (part : Part labels side p j s u) :
    Part labels side p' j r.state u := by
  obtain ⟨state, es, added, -, own⟩ := moved.world
  refine ⟨?state, ?journal, ?prepared, ?postponed⟩
  case state => rw [state, Function.update_of_ne other, part.state]
  case journal =>
    rw [added, journalOf_append, part.journal, journalOf_other apart other own, List.append_nil]
  case prepared => rw [moved.preparedElse.others j other, part.prepared]
  case postponed => rw [moved.postponedElse.others j other]; exact part.postponed

/-- A step that prepares and postpones nothing. -/
theorem Moved.inWorld (fit : p.Fit s) (part : Part labels side p i s t) {a b : Answer}
    {w : Recorded ((j : ι) → σ j)} {u : Recorded (σ i)} {events events' : List Event}
    (value : ∀ sides, a = b.placed i sides) (world : ActedOn labels side i s.world t.world w u) :
    Moved labels side p p i s t ⟨a, { s with world := w }, events⟩
      ⟨b, { t with world := u }, events'⟩ :=
  ⟨fun _ => value _, world, part.prepared, part.postponed, .refl fit.prepared,
    .refl fit.postponed⟩

/-- A step that spends a delivery. -/
theorem Moved.spending (fit : p.Fit s) (part : Part labels side p i s t)
    {w : Recorded ((j : ι) → σ j)} {u : Recorded (σ i)} {events events' : List Event}
    (world : ActedOn labels side i s.world t.world w u) (index : Nat) :
    Moved labels side p p i s t
      ⟨.nothing, ⟨w, s.prepared, s.postponed.set (place i p.postponed index) none⟩, events⟩
      ⟨.nothing, ⟨u, t.prepared, t.postponed.set index none⟩, events'⟩ := by
  refine ⟨fun _ => rfl, world, part.prepared, ?own, .refl fit.prepared, .set fit.postponed index _⟩
  case own =>
    rw [share_set fit.postponed]
    exact forall₂_set_none part.postponed index

/-- A request to a notifier of one side acts on that side as if it were alone. -/
theorem moved_answer {a : Nat} {l : Labels} (known : labels a = some l) (owner : side a = i)
    (v : Validator (σ i)) (request : Request) (fit : p.Fit s) (part : Part labels side p i s t) :
    Moved labels side p (p.after labels i (.ask a request)) i s t
      ((answer (.recorded l.validator l.sender l.logger (v.onSide i))
        (request.placed i p.prepared)).run s)
      ((answer (.recorded l.validator l.sender l.logger v) request).run t) := by
  let n := Notifier.recorded l.validator l.sender l.logger (v.onSide i)
  let m := Notifier.recorded l.validator l.sender l.logger v
  have twins := twins_onSide known owner v
  have performs (d : Delivery) : ActsOn labels side i Eq (n.perform d) (m.perform d) :=
    fun x => (twins x).perform d d rfl
  cases request with
  | screen number region =>
    have acts : ActsOn labels side i Eq (n.screen number region) (m.screen number region) :=
      fun x => (twins x).screen number region
    obtain ⟨value, world, -⟩ := acts.run _ _ part.state
    exact .inWorld fit part (fun _ => congrArg Answer.outcome value) world
  | notify number region message =>
    have acts : ActsOn labels side i Eq (n.notify number region message)
        (m.notify number region message) :=
      fun x => (twins x).notify (fun _ => rfl) number region
    obtain ⟨-, world, -⟩ := acts.run _ _ part.state
    exact .inWorld fit part (fun _ => rfl) world
  | prepare number region message =>
    have acts : ActsOn labels side i Eq (n.prepare number region message)
        (m.prepare number region message) :=
      fun x => (twins x).prepare (fun _ => rfl) number region
    obtain ⟨value, world, -⟩ := acts.run _ _ part.state
    have places : p.after labels i (.ask a (.prepare number region message)) =
        { p with prepared := p.prepared ++ [i] } := by simp [Places.after, known]
    rw [places]
    refine ⟨fun _ => congrArg Answer.prepared value, world, ?own, part.postponed,
      .concat fit.prepared _, .refl fit.postponed⟩
    case own =>
      change share i _ (s.prepared ++ [_]) = t.prepared ++ [_]
      rw [share_concat fit.prepared, part.prepared]
      exact congrArg (fun d => t.prepared ++ [d]) value
  | perform index =>
    have found : s.prepared[place i p.prepared index]? = t.prepared[index]? := by
      rw [getElem?_place fit.prepared, part.prepared]
    simp only [answer, Request.placed, Action.run_bind, Action.run_get, found]
    cases t.prepared[index]? with
    | none => exact .inWorld fit part (fun _ => rfl) (.refl part.state)
    | some d =>
      obtain ⟨-, world, -⟩ := (performs d).run _ _ part.state
      exact .inWorld fit part (fun _ => rfl) world
  | performJson json =>
    simp only [answer, Request.placed]
    cases Delivery.decode json.text with
    | error fault => exact .inWorld fit part (fun _ => rfl) (.refl part.state)
    | ok d =>
      obtain ⟨-, world, -⟩ := (performs d).run _ _ part.state
      exact .inWorld fit part (fun _ => rfl) world
  | postpone number region message =>
    have acts : ActsOn labels side i (ActsOn labels side i Eq) (n.postpone number region message)
        (m.postpone number region message) := by
      intro x
      refine ((twins x).prepare (fun _ => rfl) number region).bind ?_
      rintro d _ rfl
      exact parallel_pure (performs d)
    obtain ⟨value, world, -⟩ := acts.run _ _ part.state
    have places : p.after labels i (.ask a (.postpone number region message)) =
        { p with postponed := p.postponed ++ [i] } := by simp [Places.after, known]
    rw [places]
    refine ⟨?value, world, part.prepared, ?own, .refl fit.prepared, .concat fit.postponed _⟩
    case value =>
      -- It is the last of its side so far, so its place is behind all others.
      intro more
      have number : t.postponed.length = p.postponed.count i := by
        rw [← part.postponed.length_eq, length_share fit.postponed]
      change Answer.postponed s.postponed.length = .postponed (place i _ t.postponed.length)
      rw [number, List.append_assoc, List.singleton_append, place_count, fit.postponed]
    case own =>
      change List.Forall₂ _ (share i _ (s.postponed ++ [_])) (t.postponed ++ [_])
      rw [share_concat fit.postponed]
      exact List.rel_append part.postponed (.cons (.some value) .nil)

/-- A step of one side acts on that side as if it were alone, and on no other. -/
theorem moved_step (judges : (i : ι) → Nat → Validator (σ i)) {step : Step}
    (stays : step.StaysOn side i) (fit : p.Fit s) (part : Part labels side p i s t) :
    Moved labels side p (p.after labels i step) i s t
      ((Session.step (together labels side judges) (step.placed p i)).run s)
      ((Session.step (alone labels side judges i) step).run t) := by
  cases step with
  | ask a request =>
    obtain rfl : side a = i := stays
    cases known : labels a with
    | none =>
      have missing : together labels side judges a = none := by
        simp [together, recordedFamily, known]
      have missing' : alone labels side judges (side a) a = none := by
        simp [alone, recordedFamily, known]
      have places : p.after labels (side a) (.ask a request) = p := by
        cases request <;> simp [Places.after, known]
      simp only [Session.step, Step.placed, missing, missing', places]
      exact .inWorld fit part (fun _ => rfl) (.refl part.state)
    | some l =>
      have held : together labels side judges a = some (.recorded l.validator l.sender l.logger
          ((judges (side a) a).onSide (side a))) := by
        simp [together, recordedFamily, known]
      have held' : alone labels side judges (side a) a =
          some (.recorded l.validator l.sender l.logger (judges (side a) a)) := by
        simp [alone, recordedFamily, known]
      simp only [Session.step, Step.placed, held, held']
      exact moved_answer known rfl (judges (side a) a) request fit part
  | run index =>
    have left := forall₂_getElem? part.postponed index
    rw [← getElem?_place fit.postponed] at left
    simp only [Step.placed, run_step_run]
    generalize s.postponed[place i p.postponed index]? = action,
      t.postponed[index]? = action' at left
    cases left with
    | none => exact .inWorld fit part (fun _ => rfl) (.refl part.state)
    | some open? =>
      cases open? with
      | none => exact .inWorld fit part (fun _ => rfl) (.refl part.state)
      | some acts =>
        obtain ⟨-, world, -⟩ := acts.run _ _ part.state
        exact .spending fit part world index
  | drop index => exact .spending fit part (.refl part.state) index

/-! ## Runs -/

variable (labels side)

/-- What a run of all sides does for one side, beside a run of its own steps alone. -/
structure Undisturbed (i : ι) (steps : List (ι × Step)) (last : Places ι)
    (r : Ran (Session (Recorded ((j : ι) → σ j))) (List (Answer × List Entry)))
    (q : Ran (Session (Recorded (σ i))) (List (Answer × List Entry))) : Prop where
  /-- The steps of the side are answered as if it were alone, and add the same entries. -/
  results : share i (steps.map Prod.fst) r.value =
    q.value.map fun p => (p.1.placed i last.postponed, p.2)
  /-- The entries of the side are those of the journal that it has alone. -/
  journal : journalOf labels side i r.state.world.entries = q.state.world.entries
  /-- The validators of the side are left as if it were alone. -/
  state : r.state.world.state i = q.state.world.state

variable {labels side}

section Cons

variable {notifiers : Nat → Option (Notifier (Recorded ((j : ι) → σ j)))}
variable {notifiers' : Nat → Option (Notifier (Recorded (σ i)))} {step step' : Step}
variable {steps : List (ι × Step)} {all own : List Step} {last : Places ι}

/-- A step of the side itself, before the others. -/
theorem Undisturbed.cons
    (moved : Moved labels side p p' i s t ((Session.step notifiers step').run s)
      ((Session.step notifiers' step).run t)) (more : p'.postponed <+: last.postponed)
    (rest : Undisturbed labels side i steps last
      ((runSteps notifiers all).run ((Session.step notifiers step').run s).state)
      ((runSteps notifiers' own).run ((Session.step notifiers' step).run t).state)) :
    Undisturbed labels side i ((i, step) :: steps) last
      ((runSteps notifiers (step' :: all)).run s)
      ((runSteps notifiers' (step :: own)).run t) := by
  obtain ⟨more, last⟩ := more
  obtain ⟨-, es, added, added', -⟩ := moved.world
  refine ⟨?results, ?journal, ?state⟩
  case results =>
    rw [value_runSteps_cons, value_runSteps_cons, added, added', List.drop_left, List.drop_left,
      moved.value more, last]
    simp [share, rest.results]
  case journal =>
    rw [state_runSteps_cons, state_runSteps_cons]
    exact rest.journal
  case state =>
    rw [state_runSteps_cons, state_runSteps_cons]
    exact rest.state

/-- A step of another side, before the others. -/
theorem Undisturbed.cons_other {k : ι} (other : k ≠ i)
    {q : Ran (Session (Recorded (σ i))) (List (Answer × List Entry))}
    (rest : Undisturbed labels side i steps last
      ((runSteps notifiers all).run ((Session.step notifiers step').run s).state) q) :
    Undisturbed labels side i ((k, step) :: steps) last
      ((runSteps notifiers (step' :: all)).run s) q := by
  refine ⟨?results, ?journal, ?state⟩
  case results =>
    rw [value_runSteps_cons]
    simpa [share, other] using rest.results
  case journal =>
    rw [state_runSteps_cons]
    exact rest.journal
  case state =>
    rw [state_runSteps_cons]
    exact rest.state

end Cons

/-- From a session of all sides and one of each, a run is the same for each side as its own. -/
theorem undisturbed_of_part (judges : (i : ι) → Nat → Validator (σ i)) (apart : Apart labels side)
    {steps : List (ι × Step)} (stay : ∀ q ∈ steps, q.2.StaysOn side q.1) (fit : p.Fit s)
    {parts : (i : ι) → Session (Recorded (σ i))}
    (each : ∀ j, Part labels side p j s (parts j)) (i : ι) :
    Undisturbed labels side i steps (p.afterAll labels steps)
      ((runSteps (together labels side judges) (interleaved labels p steps)).run s)
      ((runSteps (alone labels side judges i) (ownSteps i steps)).run (parts i)) := by
  induction steps generalizing p s parts with
  | nil => exact ⟨rfl, (each i).journal, (each i).state⟩
  | cons first rest ih =>
    obtain ⟨k, step⟩ := first
    have moved := moved_step judges (stay _ (.head _)) fit (each k)
    -- The side whose step it is goes on from its own session after the step, the others wait.
    let gone := ((Session.step (alone labels side judges k) step).run (parts k)).state
    let parts' := Function.update parts k gone
    have each' (j : ι) : Part labels side (p.after labels k step) j
        ((Session.step (together labels side judges) (step.placed p k)).run s).state
        (parts' j) := by
      by_cases same : j = k
      · subst same
        simpa [parts', gone] using moved.part (each j)
      · simpa [parts', same] using moved.part_other apart same (each j)
    have later := ih (fun q mem => stay q (.tail _ mem)) moved.fit each'
    by_cases same : k = i
    · subst same
      have own : ownSteps k ((k, step) :: rest) = step :: ownSteps k rest := by
        simp [ownSteps, share]
      have goes : parts' k = gone := Function.update_self ..
      rw [goes] at later
      rw [own]
      exact .cons moved (prefix_afterAll labels _ rest) later
    · have own : ownSteps i ((k, step) :: rest) = ownSteps i rest := by
        simp [ownSteps, share, same]
      have waits : parts' i = parts i := Function.update_of_ne (Ne.symm same) ..
      rw [waits] at later
      rw [own]
      exact .cons_other same later

/-- Sides that share no validator, sender or logger do not interfere: in every interleaving of their
steps each side gets what it gets alone. -/
theorem undisturbed_runSteps (judges : (i : ι) → Nat → Validator (σ i)) (apart : Apart labels side)
    {steps : List (ι × Step)} (stay : ∀ q ∈ steps, q.2.StaysOn side q.1) (start : (i : ι) → σ i)
    (i : ι) :
    Undisturbed labels side i steps (Places.afterAll labels {} steps)
      ((runSteps (together labels side judges) (interleaved labels {} steps)).run
        { world := .start start })
      ((runSteps (alone labels side judges i) (ownSteps i steps)).run
        { world := .start (start i) }) := by
  have empty : Places.Fit (σ := σ) {} { world := .start start } := ⟨rfl, rfl⟩
  have each (j : ι) : Part labels side {} j { world := .start start }
      { world := .start (start j) } := ⟨rfl, rfl, rfl, .nil⟩
  exact undisturbed_of_part judges apart stay empty each i

end Steps

/-- Two notifiers, one on each of two sides. -/
def twoSides : Nat → Option Labels
  | 0 => some ⟨"V0", "S0", "L0"⟩
  | 1 => some ⟨"V1", "S1", "L1"⟩
  | _ => none

def sideOf (a : Nat) : Bool := a == 1

/-- Each side postpones a delivery, and one of them prepares another and runs its own first. -/
def crossing : List (Bool × Step) :=
  [(false, .ask 0 (.postpone (some "+1") "FR" "a")),
    (true, .ask 1 (.postpone (some "+2") "FR" "b")), (true, .ask 1 (.prepare none "FR" "c")),
    (true, .run 0), (false, .ask 0 (.screen (some "+3") "")), (true, .ask 1 (.perform 0)),
    (false, .run 0), (true, .run 0)]

theorem undisturbed_runSteps_crossing :
    Apart twoSides sideOf ∧ (∀ q ∈ crossing, q.2.StaysOn sideOf q.1) ∧
      ∀ i, Undisturbed twoSides sideOf i crossing (Places.afterAll twoSides {} crossing)
        ((runSteps (together twoSides sideOf fun i _ =>
          Stub.validator { script := [.ok i, .ok true] } (.shared "V"))
          (interleaved twoSides {} crossing)).run { world := .start fun _ => Usage.none })
        ((runSteps (alone twoSides sideOf (fun i _ =>
          Stub.validator { script := [.ok i, .ok true] } (.shared "V")) i)
          (ownSteps i crossing)).run { world := .start Usage.none }) := by
  have apart : Apart twoSides sideOf := by
    intro a b l m known known' different
    unfold twoSides at known known'
    split at known <;> split at known' <;> simp_all [sideOf]
    all_goals
      subst known known'
      simp
  have stay : ∀ q ∈ crossing, q.2.StaysOn sideOf q.1 := by
    simp [crossing, Step.StaysOn, sideOf]
  exact ⟨apart, stay, undisturbed_runSteps _ apart stay _⟩

end Session

end GuardedSms
