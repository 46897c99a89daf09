import ConsoleSession.Proofs.Adoption
import ConsoleSession.Proofs.Coalescing
import ConsoleSession.Proofs.Logout

/-!
# How a refresh settles

An operation settles as its call was answered, and the answer is written exactly if it is a token
and the store was not cleared since the operation was started. The epochs that the code compares
stand for that history. An answer that is not written leaves the store as it is, whatever was set
meanwhile.
-/

namespace ConsoleSession.Console

variable {c c₀ : Console} {k : Nat} {e : Event}

/-- The step clears the store: somebody ends the session, or a gate drops a token that is no use. -/
inductive Clears (c : Console) : Event → Prop
  | ends {e : Event} (h : Ends c e) : Clears c e
  | gate {t : Nat} {task : Task} {now : UInt64} {why : Malformed} (hr : .task t ∈ c.ready)
      (ht : c.tasks[t]? = some task) (hn : c.reads? t task = some now)
      (hu : c.tokens.userAt now = .error (.malformed why))
      (hd : (c.apply (.turn (.task t))).tokens = c.tokens.clear) : Clears c (.turn (.task t))

theorem clears_of_ends (h : Ends c e) : 0 < c.clears e := by
  cases e with
  | setToken token =>
    have he : token.isEmpty = true := h
    rw [clears_of_clear (by rw [apply, TokenStore.set, if_pos he])]
    exact Nat.one_pos
  | loggedOut t crashed =>
    obtain ⟨rfl, ht⟩ : crashed = false ∧ c.stage? t = some .leaving := h
    rw [clears_loggedOut ht]
    exact Nat.one_pos
  | completeLogin token =>
    have hs : (Gate.adopt c.tokens token c.now).1 = .unauthenticated := h
    obtain ⟨u, -, ha⟩ | ⟨why, -, ha⟩ := Gate.adopt_cases c.tokens token c.now
    · rw [ha] at hs
      cases hs
    have ht : (c.apply (.completeLogin token)).tokens = (c.tokens.set token).clear := by
      rw [apply, completeLogin, ha]
    by_cases he : token.isEmpty = true
    · rw [clears_of_clear_clear (by rw [ht, TokenStore.set, if_pos he])]
      exact Nat.two_pos
    · rw [clears_of_clear (by rw [ht, TokenStore.set, if_neg he]; rfl)]
      exact Nat.one_pos
  | _ => exact h.elim

theorem clears_pos_iff (h : Orderly none c) (e : Event) : 0 < c.clears e ↔ Clears c e := by
  constructor
  · intro hpos
    have hkept : (c.apply e).tokens.epoch ≠ c.tokens.epoch := by
      intro he
      rw [clears_of_epoch_eq he] at hpos
      cases hpos
    have hs := tokens_apply h e
    generalize ht : (c.apply e).tokens = s at hs hkept
    cases hs with
    | kept => exact absurd rfl hkept
    | dropped hr htask hn hu => exact .gate hr htask hn hu ht
    | logout hst => exact .ends ⟨rfl, hst⟩
    | set token =>
      by_cases he : token.isEmpty = true
      · exact .ends he
      · exact absurd (by rw [TokenStore.set, if_neg he]) hkept
    | setIfEpoch token epoch =>
      refine absurd ?_ hkept
      rw [TokenStore.setIfEpoch]
      split <;> rfl
    | login token =>
      obtain ⟨u, hu, ha⟩ | ⟨why, -, ha⟩ := Gate.adopt_cases c.tokens token c.now
      · refine absurd ?_ hkept
        rw [(Gate.adopt_eq_of_user (congrArg Prod.fst ha)).1]
      · exact .ends (congrArg Prod.fst ha)
    | @answer k a epoch _ _ =>
      refine absurd ?_ hkept
      obtain ⟨t, -, -, hj⟩ | ⟨hj, -⟩ := Refresher.judge_cases c.tokens epoch a
      · rw [hj]
      · rw [hj]
  · intro hc
    cases hc with
    | ends h => exact clears_of_ends h
    | gate _ _ _ _ hd =>
      rw [clears_of_clear hd]
      exact Nat.one_pos

/-- In the run `es` the step `s` after `pre` starts operation `k`, and after `mid` its call is
answered `a`. -/
structure Answered (c₀ : Console) (es : List Event) (k : Nat) (pre : List Event) (s : Event)
    (mid : List Event) (a : RefreshAnswer) (post : List Event) : Prop where
  split : es = pre ++ s :: mid ++ .refreshed k a :: post
  starts : (c₀.run pre).starts s = true
  next : (c₀.run pre).refresher.operations.length = k
  calling : (c₀.run (pre ++ s :: mid)).calling k = true

theorem Fresh.started_run (h : c₀.Fresh) {es : List Event}
    (hk : k < (c₀.run es).refresher.operations.length) :
    ∃ pre s mid, es = pre ++ s :: mid ∧ (c₀.run pre).starts s = true ∧
      (c₀.run pre).refresher.operations.length = k := by
  induction es using List.reverseRecOn with
  | nil => simp [run, h.refresher] at hk
  | append_singleton es e ih =>
    rw [run_snoc, length_apply (h.orderly_run es)] at hk
    by_cases hlt : k < (c₀.run es).refresher.operations.length
    · obtain ⟨pre, s, mid, rfl, hs, hn⟩ := ih hlt
      exact ⟨pre, s, mid ++ [e], by simp, hs, hn⟩
    · split at hk
      next hs => exact ⟨es, e, [], rfl, hs, by omega⟩
      next => exact absurd hk hlt

theorem Fresh.answered_of_over (h : c₀.Fresh) {es : List Event} {p : Phase}
    (hp : (c₀.run es).refresher.phase? k = some p) (hl : p.isLive = false) :
    ∃ pre s mid a post, Answered c₀ es k pre s mid a post := by
  induction es using List.reverseRecOn with
  | nil => simp [run, h.refresher, Refresher.phase?] at hp
  | append_singleton es e ih =>
    rw [run_snoc] at hp
    obtain hs | ⟨-, -, hs⟩ | ⟨-, -, -, hs⟩ | ⟨a, -, rfl, hs, -⟩ := phase?_apply (h.orderly_run es) e k
    · obtain ⟨pre, s, mid, a, post, ans⟩ := ih (hs ▸ hp)
      exact ⟨pre, s, mid, a, post ++ [e], by simp [ans.split], ans.starts, ans.next, ans.calling⟩
    · cases Option.some.inj (hs.symm.trans hp)
      cases hl
    · cases Option.some.inj (hs.symm.trans hp)
      cases hl
    · obtain ⟨pre, s, mid, rfl, hst, hn⟩ := h.started_run (Refresher.lt_of_phase? _ k hs)
      exact ⟨pre, s, mid, a, [], rfl, hst, hn, calling_iff.2 hs⟩

theorem Fresh.length_le_run (h : c₀.Fresh) (es fs : List Event) :
    (c₀.run es).refresher.operations.length ≤ (c₀.run (es ++ fs)).refresher.operations.length := by
  induction fs using List.reverseRecOn with
  | nil => exact Nat.le_of_eq (by rw [List.append_nil])
  | append_singleton fs e ih =>
    rw [← List.append_assoc, run_snoc]
    exact Nat.le_trans ih (length_le_apply (h.orderly_run _) e)

theorem Fresh.clearsDuring_eq_zero (h : c₀.Fresh) {es mid : List Event}
    (hk : k < (c₀.run es).refresher.operations.length)
    (hl : (c₀.run (es ++ mid)).refresher.isLive k = true) :
    clearsDuring k (c₀.run es) mid = 0 ↔ (c₀.run es).Along (fun c e => ¬ Clears c e) mid := by
  induction mid using List.reverseRecOn with
  | nil => exact iff_of_true rfl trivial
  | append_singleton mid e ih =>
    have ho := h.orderly_run (es ++ mid)
    rw [← List.append_assoc, run_snoc] at hl
    have hmid : (c₀.run (es ++ mid)).refresher.isLive k = true := by
      obtain hl | ⟨-, rfl⟩ := isLive_apply ho hl
      · exact hl
      · exact absurd hk (Nat.not_lt.2 (h.length_le_run es mid))
    rw [clearsDuring_snoc, along_snoc, ← run_append, if_pos hmid, Nat.add_eq_zero_iff, ih hmid,
      ← clears_pos_iff ho, Nat.pos_iff_ne_zero, not_ne_iff]

theorem Answered.uncleared_iff (h : c₀.Fresh) {es pre mid post : List Event} {s : Event}
    {a : RefreshAnswer} (ans : Answered c₀ es k pre s mid a post) :
    clearsDuring k c₀ (pre ++ s :: mid) = 0 ↔
      (c₀.run (pre ++ [s])).Along (fun c e => ¬ Clears c e) mid := by
  obtain ⟨-, hs, hn, hcall⟩ := ans
  have hphase := calling_iff.1 hcall
  have hnone : (c₀.run pre).refresher.phase? k = none :=
    (Refresher.phase?_eq_none _ k).2 (Nat.le_of_eq hn)
  have hk : k < (c₀.run (pre ++ [s])).refresher.operations.length := by
    rw [run_snoc, length_apply (h.orderly_run pre), if_pos hs]
    omega
  -- nothing was counted before the start, and the step that starts the operation comes before it
  rw [clearsDuring_at, clearsDuring_of_unstarted h hnone]
  have hdead : (c₀.run pre).refresher.isLive k = false := by simp [Refresher.isLive, hnone]
  rw [hdead, if_neg Bool.false_ne_true, Nat.zero_add, Nat.zero_add]
  refine h.clearsDuring_eq_zero hk ?_
  rw [← List.append_cons]
  exact Refresher.isLive_of_phase? _ k hphase

theorem collect_of_settled {o : RefreshOutcome} (hp : c.refresher.phase? k = some (.settled o)) :
    (c.refresher.collect k).1 = some o := by
  rw [Refresher.collect, hp]

theorem collect_of_crashed (hp : c.refresher.phase? k = some .crashed) :
    (c.refresher.collect k).1 = some (.error .aborted) := by
  rw [Refresher.collect, hp]

/-- What the answer to a call makes of the operation and of the store, which holds `held`. -/
inductive Settling (held : TokenStore) (uncleared : Prop) :
    RefreshAnswer → Option RefreshOutcome → TokenStore → Prop
  | written {t : String} (ht : t.isEmpty = false) (hu : uncleared) :
      Settling held uncleared (.token t) (some (.ok t)) { held with token := some t }
  | superseded {t : String} (hno : t.isEmpty = true ∨ ¬ uncleared) :
      Settling held uncleared (.token t) (some (.error .superseded)) held
  | failed (x : ApiError) : Settling held uncleared (.error x) (some (.error (.api x))) held
  | aborted : Settling held uncleared .crash (some (.error .aborted)) held

theorem Settling.spec {held next : TokenStore} {uncleared : Prop} {a : RefreshAnswer}
    {outcome : Option RefreshOutcome} (h : Settling held uncleared a outcome next) :
    (∀ t, outcome = some (.ok t) ↔ a = .token t ∧ t.isEmpty = false ∧ uncleared) ∧
    (outcome = some (.error .superseded) ↔ ∃ t, a = .token t ∧ (t.isEmpty = true ∨ ¬ uncleared)) ∧
    (∀ x, outcome = some (.error (.api x)) ↔ a = .error x) ∧
    (outcome = some (.error .aborted) ↔ a = .crash) ∧
    (∀ t, outcome = some (.ok t) → next = { held with token := some t }) ∧
    (∀ why, outcome = some (.error why) → next = held) := by
  cases h with
  | @written t ht hu =>
    refine ⟨fun t' => ⟨?_, ?_⟩, ⟨nofun, ?_⟩, fun x => ⟨nofun, nofun⟩, ⟨nofun, nofun⟩, ?_, nofun⟩
    · rintro ⟨⟩
      exact ⟨rfl, ht, hu⟩
    · rintro ⟨⟨⟩, -⟩
      rfl
    · rintro ⟨_, ⟨⟩, he | hno⟩
      · exact absurd (ht.symm.trans he) Bool.false_ne_true
      · exact absurd hu hno
    · rintro _ ⟨⟩
      rfl
  | @superseded t hno =>
    refine ⟨fun t' => ⟨nofun, ?_⟩, ⟨fun _ => ⟨t, rfl, hno⟩, fun _ => rfl⟩, fun x => ⟨nofun, nofun⟩,
      ⟨nofun, nofun⟩, nofun, fun _ _ => rfl⟩
    rintro ⟨⟨⟩, ht, hu⟩
    obtain he | hno := hno
    · exact absurd (ht.symm.trans he) Bool.false_ne_true
    · exact absurd hu hno
  | failed x =>
    refine ⟨fun t => ⟨nofun, nofun⟩, ⟨nofun, nofun⟩, fun x' => ⟨?_, ?_⟩, ⟨nofun, nofun⟩, nofun,
      fun _ _ => rfl⟩
    · rintro ⟨⟩
      rfl
    · rintro ⟨⟩
      rfl
  | aborted =>
    exact ⟨fun t => ⟨nofun, nofun⟩, ⟨nofun, nofun⟩, fun x => ⟨nofun, nofun⟩,
      iff_of_true rfl rfl, nofun, fun _ _ => rfl⟩

theorem Answered.settling (h : c₀.Fresh) {es pre mid post : List Event} {s : Event}
    {a : RefreshAnswer} (ans : Answered c₀ es k pre s mid a post)
    (hn : clearsDuring k c₀ es < UInt64.size) :
    Settling (c₀.run (pre ++ s :: mid)).tokens
      ((c₀.run (pre ++ [s])).Along (fun c e => ¬ Clears c e) mid) a
      ((c₀.run es).refresher.collect k).1 (c₀.run (pre ++ s :: mid ++ [.refreshed k a])).tokens := by
  have hphase := calling_iff.1 ans.calling
  obtain ⟨epoch, he⟩ := Refresher.exists_epoch?_of_phase? hphase
  have hlive := Refresher.isLive_of_phase? _ k hphase
  have settled := h.phase?_run_of_answer hphase he a post
  rw [← ans.split] at settled
  have stored : (c₀.run (pre ++ s :: mid ++ [.refreshed k a])).tokens =
      (Refresher.judge (c₀.run (pre ++ s :: mid)).tokens epoch a).2 := by
    rw [run_snoc]
    exact tokens_refreshed hphase he a
  rw [stored]
  have hcount : clearsDuring k c₀ (pre ++ s :: mid) < UInt64.size := by
    refine Nat.lt_of_le_of_lt ?_ hn
    rw [ans.split]
    exact clearsDuring_le_append k c₀ _ _
  have accepts (t : String) : (c₀.run (pre ++ s :: mid)).tokens.accepts t epoch = true ↔
      (c₀.run (pre ++ [s])).Along (fun c e => ¬ Clears c e) mid ∧ t.isEmpty = false := by
    rw [h.accepts_iff hlive he hcount, ans.uncleared_iff h]
  generalize (c₀.run (pre ++ s :: mid)).tokens = held at settled accepts
  cases a with
  | token t =>
    by_cases ha : held.accepts t epoch = true
    · have hj : Refresher.judge held epoch (.token t) =
          (.settled (.ok t), { held with token := some t }) := by
        simp [Refresher.judge, TokenStore.setIfEpoch, ha]
      rw [hj] at settled
      rw [hj, collect_of_settled settled]
      obtain ⟨hu, ht⟩ := (accepts t).1 ha
      exact .written ht hu
    · have hj : Refresher.judge held epoch (.token t) = (.settled (.error .superseded), held) := by
        simp [Refresher.judge, TokenStore.setIfEpoch, ha]
      rw [hj] at settled
      rw [hj, collect_of_settled settled]
      refine .superseded ?_
      rw [accepts] at ha
      by_cases ht : t.isEmpty = true
      · exact .inl ht
      · exact .inr fun hu => ha ⟨hu, by simpa using ht⟩
  | error x =>
    rw [collect_of_settled settled]
    exact .failed x
  | crash =>
    rw [collect_of_crashed settled]
    exact .aborted

/-- An operation comes to something only by the answer to its call. It comes to the token that was
answered exactly if that is not empty and no step cleared the store between the start and the answer,
and the store then holds the token. Any other answered token is superseded, an error is passed on, and
a call that crashed is aborted; the store is then left as it is, its epoch included. -/
theorem settlement (h : c₀.Fresh) (es : List Event) (k : Nat)
    (hn : clearsDuring k c₀ es < UInt64.size) :
    (((c₀.run es).refresher.collect k).1.isSome = true →
      ∃ pre s mid a post, Answered c₀ es k pre s mid a post) ∧
    ∀ pre s mid a post, Answered c₀ es k pre s mid a post →
      let held := (c₀.run (pre ++ s :: mid)).tokens
      let next := (c₀.run (pre ++ s :: mid ++ [.refreshed k a])).tokens
      let uncleared := (c₀.run (pre ++ [s])).Along (fun c e => ¬ Clears c e) mid
      let outcome := ((c₀.run es).refresher.collect k).1
      (c₀.run (pre ++ [s])).refresher.epoch? k = some (c₀.run (pre ++ [s])).tokens.epoch ∧
      (∀ t, outcome = some (.ok t) ↔ a = .token t ∧ t.isEmpty = false ∧ uncleared) ∧
      (outcome = some (.error .superseded) ↔ ∃ t, a = .token t ∧ (t.isEmpty = true ∨ ¬ uncleared)) ∧
      (∀ x, outcome = some (.error (.api x)) ↔ a = .error x) ∧
      (outcome = some (.error .aborted) ↔ a = .crash) ∧
      (∀ t, outcome = some (.ok t) → next = { held with token := some t }) ∧
      (∀ why, outcome = some (.error why) → next = held) := by
  refine ⟨fun hs => ?_, fun pre s mid a post ans => ⟨?_, (ans.settling h hn).spec⟩⟩
  · obtain ⟨o, hp, -⟩ | ⟨hp, -⟩ | ⟨-, hc⟩ := (c₀.run es).refresher.collect_cases k
    · exact h.answered_of_over hp rfl
    · exact h.answered_of_over hp rfl
    · simp [hc] at hs
  · rw [run_snoc, epoch?_apply (h.orderly_run pre), if_pos ⟨ans.starts, ans.next.symm⟩]

/-- A token that was set after the clearing is kept, and the answered one is lost. -/
theorem later_token_outlives_answer :
    let es := [.spawn .refresh, .turn (.task 0), .turn (.operation 0), .setToken "", .setToken "b",
      .refreshed 0 (.token "a")]
    clearsDuring 0 blank es < UInt64.size ∧
      ((blank.run es).refresher.collect 0).1 = some (.error .superseded) ∧
      (blank.run es).tokens = ⟨some "b", 1⟩ := by
  intro es
  have hn : clearsDuring 0 blank es < UInt64.size := by decide
  have ans : Answered blank es 0 [.spawn .refresh] (.turn (.task 0))
      [.turn (.operation 0), .setToken "", .setToken "b"] (.token "a") [] := ⟨rfl, rfl, rfl, rfl⟩
  have hcleared : ¬ (blank.run ([.spawn .refresh] ++ [.turn (.task 0)])).Along
      (fun c e => ¬ Clears c e) [.turn (.operation 0), .setToken "", .setToken "b"] :=
    fun ⟨_, hset, _⟩ => hset (.ends (show "".isEmpty = true from rfl))
  obtain ⟨-, -, hsuperseded, -, -, -, hkept⟩ := (settlement fresh_blank es 0 hn).2 _ _ _ _ _ ans
  have ho := hsuperseded.2 ⟨"a", rfl, .inr hcleared⟩
  exact ⟨hn, ho, hkept _ ho⟩

end ConsoleSession.Console
