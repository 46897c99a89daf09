import ConsoleSession.Proofs.Release
import Mathlib.Data.List.Basic

/-!
# One call a task

A task calls for a refresh once at most: a gate judges what is held after it, a call that was refused
is sent a second time but not a third. So the callers of an operation can be told from the tasks, and
the step of the run in which each of them called is the only one.
-/

namespace ConsoleSession

def Task.hasCalled (task : Task) : Prop :=
  match task.stage with
  | .joined _ (.retry _) => 1 ≤ task.sent.length
  | .joined _ _ | .ended _ | .dropped => True
  | .sending => 2 ≤ task.sent.length
  | _ => False

namespace Console

variable {c c₀ : Console} {t k : Nat} {task : Task}

theorem asks_cases {e : Event} (ha : c.asks e = some t) :
    (∃ task, e = .turn (.task t) ∧ .task t ∈ c.ready ∧ c.tasks[t]? = some task ∧
      c.wants t task = true) ∨
    (∃ x goal sent why, e = .replied t x ∧ c.tasks[t]? = some ⟨goal, .sending, sent⟩ ∧
      sent.length = 1 ∧ c.apply e = c.join t goal (.retry why)) := by
  unfold asks at ha
  split at ha
  next u =>
    split at ha
    next task ht =>
      split at ha
      next hw =>
        cases ha
        exact .inl ⟨task, rfl, hw.1, ht, hw.2⟩
      next => cases ha
    next => cases ha
  next u x =>
    split at ha
    next goal sent why ht hx =>
      split at ha
      next hw =>
        cases ha
        exact .inr ⟨x, goal, sent, why, rfl, ht, hw.2, by simp [apply, replied, ht, hx, hw]⟩
      next => cases ha
    next => cases ha
  next => cases ha

theorem not_asks_of_hasCalled (ht : c.tasks[t]? = some task) (hc : task.hasCalled) (e : Event) :
    c.asks e ≠ some t := by
  intro ha
  obtain ⟨task', -, -, ht', hw⟩ | ⟨x, goal, sent, why, -, ht', hl, -⟩ := asks_cases ha
  · cases Option.some.inj (ht.symm.trans ht')
    obtain ⟨goal, stage, sent⟩ := task
    cases stage <;> simp_all [Task.hasCalled, wants, gates]
  · cases Option.some.inj (ht.symm.trans ht')
    have h2 : 2 ≤ sent.length := hc
    omega

theorem task_proceed (goal : Goal) (o : RefreshOutcome) (after : After)
    (ht : c.tasks[t]? = some task) :
    (∃ r, (c.proceed t goal o after).tasks[t]? = some { task with stage := .ended r }) ∨
    (∃ refused a, after = .retry refused ∧ (c.proceed t goal o after).tasks[t]? =
      some { task with stage := .sending, sent := task.sent ++ [a] }) := by
  have hfinish : ∀ (c' : Console) r, c'.tasks = c.tasks →
      (c'.finish t r).tasks[t]? = some { task with stage := .ended r } := by
    intro c' r hc'
    simp [finish, setStage, hc', ht]
  cases after with
  | report => exact .inl ⟨_, hfinish c _ rfl⟩
  | project now =>
    left
    cases goal with
    | resolve => exact ⟨_, hfinish { c with tokens := (Gate.project c.tokens now).2 } _ rfl⟩
    | visit path =>
      let c' := ({ c with
        tokens := (Gate.project c.tokens now).2
        provider := c.provider.mounted (Gate.project c.tokens now).1 } : Console).wake
          (c.provider.queue.map .task)
      exact ⟨_, hfinish (c'.navigate path).2 _ rfl⟩
    | _ =>
      exact ⟨_, hfinish (({ c with
        tokens := (Gate.project c.tokens now).2
        provider := c.provider.mounted (Gate.project c.tokens now).1 } : Console).wake
          (c.provider.queue.map .task)) _ rfl⟩
  | retry refused =>
    unfold proceed
    dsimp only
    split
    · exact .inr ⟨refused, _, rfl, by simp [send, ht]; rfl⟩
    · exact .inl ⟨_, hfinish c _ rfl⟩

theorem hasCalled_proceed (goal : Goal) (o : RefreshOutcome) (after : After)
    (ht : c.tasks[t]? = some task) (hs : task.stage = .joined k after) (hc : task.hasCalled) :
    ∃ task', (c.proceed t goal o after).tasks[t]? = some task' ∧ task'.hasCalled := by
  obtain ⟨r, he⟩ | ⟨refused, a, rfl, he⟩ := task_proceed goal o after ht
  · exact ⟨_, he, trivial⟩
  · refine ⟨_, he, ?_⟩
    have h1 : 1 ≤ task.sent.length := by
      unfold Task.hasCalled at hc
      rwa [hs] at hc
    show 2 ≤ (task.sent ++ [a]).length
    rw [List.length_append, List.length_singleton]
    omega

theorem hasCalled_apply (h : Orderly none c) (e : Event) (ht : c.tasks[t]? = some task)
    (hc : task.hasCalled) : ∃ task', (c.apply e).tasks[t]? = some task' ∧ task'.hasCalled := by
  by_cases hne : e.task? = some t
  · obtain ⟨goal, stage, sent⟩ := task
    cases stage with
    | joined k after =>
      obtain hstay | ⟨-, hdrop⟩ | ⟨o, r, -, -, -, he⟩ := waiting_apply h e ht rfl
      · exact ⟨_, hstay, hc⟩
      · exact ⟨_, hdrop, trivial⟩
      · rw [he]
        exact hasCalled_proceed (c := { c.taking (.task t) with refresher := r }) goal o after ht rfl hc
    | ended r => exact ⟨_, by rw [tasks_apply_of_over e ht rfl hne, ht], hc⟩
    | dropped => exact ⟨_, by rw [tasks_apply_of_over e ht rfl hne, ht], hc⟩
    | sending =>
      have hlen : sent.length ≠ 1 := by
        have h2 : 2 ≤ sent.length := hc
        omega
      cases e with
      | turn s =>
        cases s with
        | operation j => cases hne
        | task u =>
          cases hne
          refine ⟨_, ?_, hc⟩
          by_cases hr : .task t ∈ c.ready <;> simp [apply, turn, hr, ht, resume]
      | drop u =>
        cases hne
        exact ⟨⟨goal, .dropped, sent⟩, by simp [apply, drop, ht, wake, setStage], trivial⟩
      | loggedOut u crashed =>
        cases hne
        exact ⟨_, by simp [apply, loggedOut, ht], hc⟩
      | replied u x =>
        cases hne
        rcases hx : x.accept with why | body
        · exact ⟨⟨goal, .ended (.answered (.error why)), sent⟩,
            by simp [apply, replied, ht, hx, hlen, finish, setStage], trivial⟩
        · exact ⟨⟨goal, .ended (answered goal (.ok body)), sent⟩,
            by simp [apply, replied, ht, hx, finish, setStage], trivial⟩
      | _ => cases hne
    | _ => cases hc
  · exact ⟨task, task_apply_of_ne h hne ht, hc⟩

theorem task_join (h : c.refresher.Sound) (goal : Goal) (after : After)
    (ht : c.tasks[t]? = some task) :
    (c.join t goal after).tasks[t]? = some { task with stage := .joined c.given after } ∨
      ∃ r, (c.join t goal after).tasks[t]? = some { task with stage := .ended r } := by
  obtain ⟨-, hw, -⟩ | ⟨-, -, -, r, hr⟩ := join_awaits h goal after ht
  · exact .inl (join_waits h ht hw).1
  · right
    obtain ⟨-, hj⟩ | ⟨j, -, -, hj⟩ | ⟨j, -, -, hj⟩ := join_cases h t goal after
    · rw [hj, startFor, waitFor_stage?, if_pos rfl] at hr
      obtain ⟨_, -, ⟨⟩⟩ := Option.map_eq_some_iff.1 hr
    · rw [hj, waitFor_stage?, if_pos rfl] at hr
      obtain ⟨_, -, ⟨⟩⟩ := Option.map_eq_some_iff.1 hr
    · rw [hj] at hr ⊢
      obtain hend | ⟨refused, a, -, hsend⟩ := task_proceed (c := { c with
        refresher := c.refresher.release j }) goal (.error .aborted) after ht
      · exact hend
      · simp [stage?, hsend] at hr

theorem hasCalled_of_asks (h : Orderly none c) {e : Event} (ha : c.asks e = some t) :
    ∃ task, (c.apply e).tasks[t]? = some task ∧ task.hasCalled := by
  have hjoin : ∀ (c' : Console) goal after task, c'.refresher.Sound → c'.tasks[t]? = some task →
      (∀ why, after = .retry why → 1 ≤ task.sent.length) →
      ∃ task', (c'.join t goal after).tasks[t]? = some task' ∧ task'.hasCalled := by
    intro c' goal after task hs ht hr
    obtain hj | ⟨r, hj⟩ := task_join hs goal after ht
    · refine ⟨_, hj, ?_⟩
      cases after with
      | retry why => exact hr why rfl
      | _ => trivial
    · exact ⟨_, hj, trivial⟩
  obtain ⟨task, rfl, hr, ht, hw⟩ | ⟨x, goal, sent, why, rfl, ht, hl, he⟩ := asks_cases ha
  · obtain ⟨hn, -⟩ | ⟨_, hk, -⟩ | ⟨_, ⟨⟩, -, hn, -⟩ | ⟨_, task', ⟨⟩, -, ht', hs⟩ :=
      turn_cases c (.task t)
    · exact absurd hr hn
    · cases hk
    · rw [ht] at hn
      cases hn
    · cases Option.some.inj (ht.symm.trans ht')
      have hw' : (c.taking (.task t)).wants t task = true := hw
      dsimp only [apply]
      generalize c.turn (.task t) = c' at hs
      cases hs with
      | gate p tokens _ _ _ _ _ =>
        exact hjoin { c.taking (.task t) with provider := p, tokens := tokens } _ _ task h.sound ht
          (by simp)
      | ask _ _ _ _ => exact hjoin (c.taking (.task t)) _ _ task h.sound ht (by simp)
      | rest hn _ _ => simp [hn] at hw'
      | pass hn _ _ _ _ _ => simp [hn] at hw'
      | judge p hn _ _ _ _ => simp [hn] at hw'
      | collect k after o r hn _ _ _ => simp [hn] at hw'
  · rw [he]
    exact hjoin c goal _ _ h.sound ht fun _ _ => Nat.le_of_eq hl.symm

theorem mem_callers {es : List Event} :
    t ∈ callers k c₀ es ↔ ∃ pre e post, es = pre ++ e :: post ∧
      (c₀.run pre).asks e = some t ∧ (c₀.run pre).given = k := by
  induction es using List.reverseRecOn with
  | nil => simp [callers]
  | append_singleton es e ih =>
    rw [callers_snoc, List.mem_append, ih, mem_callersOf]
    constructor
    · rintro (⟨pre, f, post, rfl, ha, hg⟩ | ⟨hg, ha⟩)
      · exact ⟨pre, f, post ++ [e], by simp, ha, hg⟩
      · exact ⟨es, e, [], rfl, ha, hg⟩
    · rintro ⟨pre, f, post, he, ha, hg⟩
      rcases List.eq_nil_or_concat' post with rfl | ⟨post, e', rfl⟩
      · obtain ⟨rfl, ⟨⟩⟩ := List.append_inj' he rfl
        exact .inr ⟨hg, ha⟩
      · rw [← List.cons_append, ← List.append_assoc] at he
        obtain ⟨rfl, ⟨⟩⟩ := List.append_inj' he rfl
        exact .inl ⟨pre, f, post, rfl, ha, hg⟩

theorem Fresh.hasCalled_run (h : c₀.Fresh) {pre : List Event} {e : Event}
    (ha : (c₀.run pre).asks e = some t) (post : List Event) :
    ∃ task, (c₀.run (pre ++ e :: post)).tasks[t]? = some task ∧ task.hasCalled := by
  induction post using List.reverseRecOn with
  | nil =>
    rw [run_snoc]
    exact hasCalled_of_asks (h.orderly_run pre) ha
  | append_singleton post f ih =>
    obtain ⟨task, ht, hc⟩ := ih
    rw [← List.cons_append, ← List.append_assoc, run_snoc]
    exact hasCalled_apply (h.orderly_run _) f ht hc

/-- The steps in which one task calls are one step. -/
theorem Fresh.call_unique (h : c₀.Fresh) {pre pre' post post' : List Event} {e e' : Event}
    (hes : pre ++ e :: post = pre' ++ e' :: post') (ha : (c₀.run pre).asks e = some t)
    (ha' : (c₀.run pre').asks e' = some t) : pre = pre' := by
  have hstop : ∀ (pre mid : List Event) (e e' : Event), (c₀.run pre).asks e = some t →
      (c₀.run (pre ++ e :: mid)).asks e' ≠ some t := by
    intro pre mid e e' ha
    obtain ⟨task, ht, hc⟩ := h.hasCalled_run ha mid
    exact not_asks_of_hasCalled ht hc e'
  obtain ⟨mid, rfl, hmid⟩ | ⟨mid, rfl, hmid⟩ := List.append_eq_append_iff.1 hes
  · cases mid with
    | nil => simp
    | cons f mid =>
      cases hmid
      exact absurd ha' (hstop pre mid e e' ha)
  · cases mid with
    | nil => simp
    | cons f mid =>
      cases hmid
      exact absurd ha (hstop pre' mid e' e ha')

end Console

end ConsoleSession
