import ConsoleSession.Proofs.Attendance
import ConsoleSession.Proofs.Calls

/-!
# One resolution for all who mount

The resolution is published once, by its holder, and whoever mounts returns after that with the state
of the moment. The provider's state is loading until something is published and never after. As long
as nobody who mounts is dropped the holder stays the same, so that there is one refresh for all.
-/

namespace ConsoleSession.Console

variable {c c₀ : Console} {t : Nat} {task : Task} {e : Event}

def gathered {α : Type} (f : Console → Event → Option α) : Console → List Event → List α
  | _, [] => []
  | c, e :: es => (f c e).toList ++ gathered f (c.apply e) es

theorem gathered_snoc {α : Type} (f : Console → Event → Option α) (c : Console) (es : List Event)
    (e : Event) : gathered f c (es ++ [e]) = gathered f c es ++ (f (c.run es) e).toList := by
  induction es generalizing c with
  | nil => exact List.append_nil _
  | cons d es ih =>
    show (f c d).toList ++ gathered f (c.apply d) (es ++ [e]) = _
    rw [ih, ← List.append_assoc]
    rfl

def resolution (c : Console) (e : Event) : Option AuthState :=
  match e with
  | .turn (.task _) =>
    if (c.apply e).provider.published = c.provider.published then none
    else some (c.apply e).provider.state
  | _ => none

def resolutions (c : Console) (es : List Event) : List AuthState :=
  gathered resolution c es

/-- A state is published in the step: the resolution has come to one, a login is judged, or a logout
is complete. -/
inductive Publishes (c : Console) : Event → Prop
  | resolution {e : Event} {s : AuthState} (h : c.resolution e = some s) : Publishes c e
  | login (token : String) : Publishes c (.completeLogin token)
  | logout {t : Nat} (ht : c.stage? t = some .leaving) : Publishes c (.loggedOut t false)

theorem resolution_of_published (h : (c.apply e).provider.published = c.provider.published) :
    c.resolution e = none := by
  unfold resolution
  split
  · exact if_pos h
  · rfl

theorem resolution_of_mounted {p : Provider} {s : AuthState}
    (hp : p = c.provider ∨ p = c.provider.enter t)
    (h : (c.apply (.turn (.task t))).provider = p.mounted s) :
    c.resolution (.turn (.task t)) = some s := by
  have count : p.published = c.provider.published := by
    obtain rfl | rfl := hp
    · rfl
    · exact enter_published _ _
  have more : (p.mounted s).published ≠ c.provider.published := by
    rw [← count]
    exact Nat.succ_ne_self _
  rw [resolution, h, if_neg more]
  rfl

theorem resolution_mounts (ho : Orderly none c) (hf : c.Fits) {s : AuthState}
    (h : c.resolution e = some s) :
    ∃ t task, e = .turn (.task t) ∧ c.tasks[t]? = some task ∧ task.goal.Mounts := by
  have hp := provider_apply ho hf e
  generalize same : (c.apply e).provider = p at hp
  cases hp with
  | kept =>
    rw [resolution_of_published (by rw [same])] at h
    cases h
  | entered _ ht hm => exact ⟨_, _, rfl, ht, hm⟩
  | mounted _ ht hm => exact ⟨_, _, rfl, ht, hm⟩
  | left => cases h
  | logout => cases h
  | login => cases h

theorem Attended.resolution_cases (h : Attended c) (ho : Orderly none c) (hf : c.Fits) (e : Event) :
    ((∃ s, c.resolution e = some s) ∧ c.provider.mounting ≠ .done ∧
      (c.apply e).provider.mounting = .done) ∨
    (c.resolution e = none ∧
      ((c.apply e).provider.mounting = .done ↔ c.provider.mounting = .done)) := by
  have hp := provider_apply ho hf e
  have kept := done_apply ho hf (e := e)
  generalize same : (c.apply e).provider = p at hp kept
  cases hp with
  | kept => exact .inr ⟨resolution_of_published (by rw [same]), Iff.rfl⟩
  | entered =>
    exact .inr ⟨resolution_of_published (by rw [same, enter_published]), Provider.done_of_enter, kept⟩
  | mounted _ ht hm hp hn =>
    exact .inl ⟨⟨_, resolution_of_mounted hp same⟩, Provider.not_done_of_enter (h.holds ht hm hn), rfl⟩
  | left t =>
    exact .inr ⟨resolution_of_published (by rw [same, leave_published]), Provider.done_of_leave, kept⟩
  | logout => exact .inr ⟨rfl, Iff.rfl⟩
  | login => exact .inr ⟨rfl, Iff.rfl⟩

theorem Fresh.length_resolutions (h : c₀.Fresh) (es : List Event) :
    (c₀.resolutions es).length = if (c₀.run es).provider.mounting = .done then 1 else 0 := by
  induction es using List.reverseRecOn with
  | nil => simp [resolutions, gathered, run, h.provider]
  | append_singleton es e ih =>
    rw [resolutions, gathered_snoc, List.length_append, run_snoc]
    rw [resolutions] at ih
    obtain ⟨⟨s, hs⟩, running, done⟩ | ⟨hs, same⟩ :=
      (h.attended_run es).resolution_cases (h.orderly_run es) (h.fits_run es) e
    · rw [ih, hs, if_neg running, if_pos done]
      rfl
    · rw [ih, hs, Option.toList_none, List.length_nil, Nat.add_zero]
      exact if_congr same.symm rfl rfl

theorem Publishes.state (ho : Orderly none c) (hf : c.Fits) (h : Publishes c e) (u : Option User) :
    (c.apply e).provider.state ≠ .loading u := by
  cases h with
  | login token => exact adopt_ne_loading _ _ _ u
  | logout ht =>
    obtain ⟨⟨goal, stage, sent⟩, htask, rfl⟩ := Option.map_eq_some_iff.1 ht
    simp [apply, loggedOut, htask, finish, setStage, Provider.publish]
  | resolution h =>
    have hp := provider_apply ho hf e
    generalize same : (c.apply e).provider = p at hp
    cases hp with
    | kept =>
      rw [resolution_of_published (by rw [same])] at h
      cases h
    | entered =>
      rw [resolution_of_published (by rw [same, enter_published])] at h
      cases h
    | mounted => exact project_ne_loading _ _ u
    | left => cases h
    | logout => cases h
    | login => cases h

theorem state_of_not_publishes (ho : Orderly none c) (hf : c.Fits) (h : ¬ Publishes c e) :
    (c.apply e).provider.state = c.provider.state := by
  have hp := provider_apply ho hf e
  generalize same : (c.apply e).provider = p at hp
  cases hp with
  | kept => rfl
  | entered => exact enter_state _ _
  | mounted _ _ _ hp _ => exact absurd (.resolution (resolution_of_mounted hp same)) h
  | left => exact leave_state _ _
  | logout ht => exact absurd (.logout ht) h
  | login token => exact absurd (.login token) h

theorem Fresh.loading_iff (h : c₀.Fresh) (es : List Event) :
    (∃ u, (c₀.run es).provider.state = .loading u) ↔
      c₀.Along (fun c e => ¬ Publishes c e) es := by
  induction es using List.reverseRecOn with
  | nil => exact ⟨fun _ => trivial, fun _ => ⟨none, by rw [run, List.foldl_nil, h.provider]⟩⟩
  | append_singleton es e ih =>
    rw [along_snoc, ← ih, run_snoc]
    by_cases published : Publishes (c₀.run es) e
    · have left := published.state (h.orderly_run es) (h.fits_run es)
      constructor
      · rintro ⟨u, hu⟩
        exact absurd hu (left u)
      · rintro ⟨-, quiet⟩
        exact absurd published quiet
    · rw [state_of_not_publishes (h.orderly_run es) (h.fits_run es) published]
      exact (and_iff_left published).symm

instance decidableMounts : (goal : Goal) → Decidable goal.Mounts
  | .mount | .visit _ => .isTrue trivial
  | .refresh | .resolve | .logout | .call _ => .isFalse id

def mountCall (c : Console) (e : Event) : Option Nat :=
  (c.asks e).filter fun t => c.goals[t]?.any fun goal => goal.Mounts

def mountCalls (c : Console) (es : List Event) : List Nat :=
  gathered mountCall c es

theorem mountCall_eq_some : c.mountCall e = some t ↔
    c.asks e = some t ∧ ∃ task, c.tasks[t]? = some task ∧ task.goal.Mounts := by
  simp [mountCall, Option.filter_eq_some_iff, getElem?_goals, Option.any_eq_true]

/-- Nobody who came to mount is dropped in the step before having returned. -/
def SparesMounts (c : Console) (e : Event) : Prop :=
  ∀ t task, e = .drop t → c.tasks[t]? = some task → task.goal.Mounts → task.stage.isOver = true

theorem drop_of_over (ht : c.tasks[t]? = some task) (hs : task.stage.isOver = true) :
    c.apply (.drop t) = c := by
  obtain ⟨goal, stage, sent⟩ := task
  cases stage with
  | ended r => simp [apply, drop, ht]
  | dropped => simp [apply, drop, ht]
  | _ => cases hs

theorem holds_of_mountCall (hf : c.Fits) (h : c.mountCall e = some t) :
    e.task? = some t ∧ (c.provider.enter t).isHeldBy t = true ∧
      ∃ task, c.tasks[t]? = some task ∧ task.goal.Mounts ∧ task.stage.isOver = false := by
  obtain ⟨ha, task, ht, hm⟩ := mountCall_eq_some.1 h
  obtain ⟨task', rfl, -, ht', hw⟩ | ⟨x, goal, sent, why, -, ht', -, -⟩ := asks_cases ha
  · cases ht.symm.trans ht'
    have gates : c.gates t task = true := by
      by_contra closed
      have shut : c.gates t task = false := Bool.eq_false_iff.2 closed
      have noRefresh : task.stage = .fresh → task.goal ≠ .refresh := by
        rintro - hgoal
        rw [hgoal] at hm
        exact hm
      rw [wants_of_not_gates shut noRefresh] at hw
      cases hw
    refine ⟨rfl, isHeldBy_of_gates hm gates, task, ht, hm, ?_⟩
    cases isOver : task.stage.isOver with
    | false => rfl
    | true =>
      have shut : c.gates t task = false := by
        refine gates_of_stage ?_ ?_ <;> intro stage <;> rw [stage] at isOver <;> cases isOver
      rw [shut] at gates
      cases gates
  · cases ht.symm.trans ht'
    obtain ⟨call, hgoal⟩ : ∃ call, goal = .call call := hf t _ ht
    rw [hgoal] at hm
    exact hm.elim

/-- At most one has called, and holds the resolution until it is done. -/
structure CallsOnce (calls : List Nat) (c : Console) : Prop where
  once : calls.length ≤ 1
  called : ∀ t ∈ calls, ∃ task, c.tasks[t]? = some task ∧ task.hasCalled
  running : ∀ t ∈ calls, c.provider.isHeldBy t = true ∨ c.provider.mounting = .done

theorem Attended.running_apply (h : Attended c) (ho : Orderly none c) (hf : c.Fits)
    (spares : SparesMounts c e) (running : c.provider.isHeldBy t = true ∨ c.provider.mounting = .done) :
    (c.apply e).provider.isHeldBy t = true ∨ (c.apply e).provider.mounting = .done := by
  obtain held | done := running
  · have hp := provider_apply ho hf e
    generalize same : (c.apply e).provider = p at hp
    cases hp with
    | kept => exact .inl held
    | entered => exact .inl (Provider.isHeldBy_enter held _)
    | mounted => exact .inr rfl
    | left u =>
      left
      -- a holder that is dropped has returned, and then the drop changes nothing
      by_cases here : u = t
      · subst here
        obtain ⟨goal, hg, hm⟩ := h.party u (Provider.mem_party_of_isHeldBy held)
        rw [getElem?_goals] at hg
        obtain ⟨task, ht, rfl⟩ := Option.map_eq_some_iff.1 hg
        rw [← same, drop_of_over ht (spares u task rfl ht hm)]
        exact held
      · exact Provider.isHeldBy_leave held here
    | logout => exact .inl held
    | login => exact .inl held
  · exact .inr (done_apply ho hf done e)

theorem CallsOnce.none_of_mountCall {calls : List Nat} (h : CallsOnce calls c) (hf : c.Fits)
    (hc : c.mountCall e = some t) : calls = [] := by
  obtain ⟨-, held, -⟩ := holds_of_mountCall hf hc
  refine List.eq_nil_iff_forall_not_mem.2 fun u hu => ?_
  -- An earlier caller still holds the resolution, and the only one who can hold it is `t`.
  obtain holder | done := h.running u hu
  · obtain rfl := Provider.isHeldBy_unique (Provider.isHeldBy_enter holder t) held
    obtain ⟨task, ht, called⟩ := h.called u hu
    exact not_asks_of_hasCalled ht called e (mountCall_eq_some.1 hc).1
  · exact Provider.not_done_of_enter held done

theorem Attended.callsOnce_apply (h : Attended c) (ho : Orderly none c) (hf : c.Fits)
    {calls : List Nat} (hc : CallsOnce calls c) (spares : SparesMounts c e) :
    CallsOnce (calls ++ (c.mountCall e).toList) (c.apply e) := by
  have called (u : Nat) (hu : u ∈ calls) :
      ∃ task, (c.apply e).tasks[u]? = some task ∧ task.hasCalled := by
    obtain ⟨task, ht, called⟩ := hc.called u hu
    exact hasCalled_apply ho e ht called
  cases call : c.mountCall e with
  | none =>
    rw [Option.toList_none, List.append_nil]
    exact ⟨hc.once, called, fun u hu => h.running_apply ho hf spares (hc.running u hu)⟩
  | some t =>
    obtain rfl := hc.none_of_mountCall hf call
    have asks := (mountCall_eq_some.1 call).1
    obtain ⟨he, -, task, ht, hm, isOver⟩ := holds_of_mountCall hf call
    have settles := h.settles_apply ho hf ht hm isOver he
    refine ⟨Nat.le_refl 1, List.forall_mem_singleton.2 (hasCalled_of_asks ho asks),
      List.forall_mem_singleton.2 ?_⟩
    obtain ⟨-, waits, -⟩ | ⟨-, -, -, r, ended⟩ := asks_awaits ho asks
    · obtain ⟨after, hs⟩ := awaited?_eq_some.1 waits
      exact .inl ((settles _ hs).1 _ after rfl)
    · exact .inr ((settles _ ended).2 r rfl).1

theorem Fresh.callsOnce_run (h : c₀.Fresh) {es : List Event} (spares : c₀.Along SparesMounts es) :
    CallsOnce (c₀.mountCalls es) (c₀.run es) := by
  induction es using List.reverseRecOn with
  | nil => exact ⟨Nat.zero_le 1, nofun, nofun⟩
  | append_singleton es e ih =>
    obtain ⟨spares, last⟩ := (along_snoc _ _ _ _).1 spares
    rw [mountCalls, gathered_snoc, run_snoc]
    exact (h.attended_run es).callsOnce_apply (h.orderly_run es) (h.fits_run es) (ih spares) last

/-- The resolution is published once at most, by a task that came to mount, and no such task
returns before it is. Who returns is told the state of that moment, which is not loading. The state
is loading from the start until something is published, and never after. As long as nobody who came
to mount is dropped, there is one refresh for all of them at most. -/
theorem mounted_once (h : c₀.Fresh) (es : List Event) :
    let c := c₀.run es
    (c₀.resolutions es).length ≤ 1 ∧
    (∀ e s, c.resolution e = some s →
      ∃ t task, e = .turn (.task t) ∧ c.tasks[t]? = some task ∧ task.goal.Mounts) ∧
    (∀ (t : Nat) (task : Task) (r : Ending), c.tasks[t]? = some task → task.goal.Mounts →
      task.stage = .ended r → (c₀.resolutions es).length = 1) ∧
    (∀ (e : Event) (t : Nat) (task : Task) (r : Ending), c.tasks[t]? = some task →
      task.goal.Mounts → task.stage.isOver = false → (c.apply e).stage? t = some (.ended r) →
      (c.apply e).Tells task.goal r ∧ ∀ u, (c.apply e).provider.state ≠ .loading u) ∧
    c₀.provider.state = .loading none ∧
    ((∃ u, c.provider.state = .loading u) ↔ c₀.Along (fun c e => ¬ Publishes c e) es) ∧
    (c₀.Along SparesMounts es → (c₀.mountCalls es).length ≤ 1) := by
  intro c
  have ho : Orderly none c := h.orderly_run es
  have hf : c.Fits := h.fits_run es
  have attended : Attended c := h.attended_run es
  have count := h.length_resolutions es
  refine ⟨?_, fun e s hs => resolution_mounts ho hf hs, fun t task r ht hm hr => ?_,
    fun e t task r ht hm isOver ended => ?_,
    by rw [h.provider], h.loading_iff es, fun spares => (h.callsOnce_run spares).once⟩
  · rw [count]
    split <;> decide
  · rw [count, if_pos (attended.returned t task r ht hm hr)]
  · have he : e.task? = some t := by
      by_contra other
      have stays := task_apply_of_ne ho other ht
      rw [stage?, stays] at ended
      have stage : task.stage = .ended r := Option.some.inj ended
      rw [stage] at isOver
      cases isOver
    obtain ⟨done, told⟩ := (attended.settles_apply ho hf ht hm isOver he _ ended).2 r rfl
    exact ⟨told, (attended.apply ho hf e).declared done⟩

/-- The first who mounts is dropped while it waits for the refresh, and the second takes over; a
login comes in between. -/
theorem mount_taken_over :
    let es := [.spawn .mount, .spawn (.visit "/orders"), .turn (.task 0), .turn (.task 1),
      .turn (.operation 0), .drop 0, .completeLogin "", .turn (.task 1),
      .refreshed 0 (.error (.status 500 "")), .turn (.task 1)]
    blank.resolutions es = [.unauthenticated] ∧ (blank.resolutions es).length ≤ 1 ∧
      (blank.run es).provider.state = .unauthenticated ∧
      ∀ u, (blank.run es).provider.state ≠ .loading u := by
  intro es
  obtain ⟨once, -, -, -, -, loading, -⟩ := mounted_once fresh_blank es
  have published : blank.resolutions es = [.unauthenticated] := rfl
  refine ⟨published, once, rfl, fun u hu => ?_⟩
  have quiet := loading.1 ⟨u, hu⟩
  have login : Publishes (blank.run (es.take 6)) (.completeLogin "") := .login ""
  exact ((along_append _ _ (es.take 6) _).1 quiet).2.1 login

end ConsoleSession.Console
