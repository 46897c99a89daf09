import ConsoleSession.Guard
import ConsoleSession.Proofs.Redirects
import Mathlib.Data.List.Induction

/-!
# Visitors who come back

A history of guarded navigations over one store, which a new guard may open again in between if it
is in a folder. Only the navigations that bear on the store count: the visitors turned away, who
leave their destination, and the signed-in ones, who take what is there. So what the store keeps is
the destination of the last one that counts, if that one was turned away.
-/

namespace ConsoleSession

structure Visit where
  auth : AuthState
  path : String
  now : UInt64
  deriving DecidableEq, Repr

inductive Passage
  | visit (v : Visit)
  | reopen
  deriving DecidableEq, Repr

namespace RedirectStore

def reopened : RedirectStore → RedirectStore
  | .memory _ => .memory none
  | .file f => .file f

def Vacant (s : RedirectStore) : Prop := s = .memory none ∨ s = .file .absent ∨ s = .file .empty

def isFile : RedirectStore → Bool
  | .memory _ => false
  | .file _ => true

end RedirectStore

namespace Guard

variable {g : Guard} {s : RedirectStore} {v : Visit} {es : List Passage}

def after (g : Guard) (s : RedirectStore) : List Passage → RedirectStore
  | [] => s
  | .visit v :: es => g.after (g.decide v.auth v.path v.now s).2 es
  | .reopen :: es => g.after s.reopened es

def visit? (es : List Passage) (j : Nat) : Option Visit :=
  match es[j]? with
  | some (.visit v) => some v
  | _ => none

def decision? (g : Guard) (s : RedirectStore) (es : List Passage) (j : Nat) : Option Decision :=
  (visit? es j).map fun v => (g.decide v.auth v.path v.now (g.after s (es.take j))).1

def Denies (g : Guard) (v : Visit) : Prop :=
  g.isPublic v.path = false ∧ v.auth = .unauthenticated

def Admits (g : Guard) (v : Visit) : Prop :=
  g.isPublic v.path = false ∧ ∃ u, v.auth = .authenticated u

/-- The navigation `w` at `i` was denied, and none between `i` and `j` was denied or admitted. -/
structure LastDenial (g : Guard) (es : List Passage) (i j : Nat) (w : Visit) : Prop where
  earlier : i < j
  visited : visit? es i = some w
  denied : g.Denies w
  quiet : ∀ k v, i < k → k < j → visit? es k = some v → ¬ g.Denies v ∧ ¬ g.Admits v

def InTime (g : Guard) (w v : Visit) : Prop :=
  ∀ t, g.ttl = some t → v.now.toNat - w.now.toNat ≤ t.toNat

theorem fresh_eq_some {i : Intent} {ttl : Option UInt64} {now : UInt64} {p : String} :
    i.fresh ttl now = some p ↔
      (∀ t, ttl = some t → now.toNat - i.savedAt.toNat ≤ t.toNat) ∧ i.path = p := by
  cases ttl with
  | none => simp [Intent.fresh, Intent.isStale]
  | some t =>
    have stale : i.isStale (some t) now = true ↔ t.toNat < now.toNat - i.savedAt.toNat :=
      decide_eq_true_iff
    rw [Intent.fresh]
    by_cases old : t.toNat < now.toNat - i.savedAt.toNat
    · rw [if_pos (stale.mpr old)]
      constructor
      · exact fun h => nomatch h
      · rintro ⟨young, -⟩
        exact absurd (young t rfl) (Nat.not_le.mpr old)
    · rw [if_neg (mt stale.mp old), Option.some_inj]
      constructor
      · exact fun same => ⟨fun _ ht => Option.some_inj.mp ht ▸ Nat.not_lt.mp old, same⟩
      · exact And.right

theorem quiet_iff : (¬ g.Denies v ∧ ¬ g.Admits v) ↔
    g.isPublic v.path = true ∨ ∃ u, v.auth = .loading u := by
  cases shut : g.isPublic v.path <;> cases auth : v.auth <;> simp [Denies, Admits, shut, auth]

theorem decide_of_denies (h : g.Denies v) :
    g.decide v.auth v.path v.now s =
      (.redirectToLogin (g.loginLocation v.path), (s.save ⟨v.path, v.now⟩).2) := by
  unfold Guard.decide
  rw [h.1, h.2]
  rfl

theorem store_of_admits (h : g.Admits v) :
    (g.decide v.auth v.path v.now s).2 = (s.take g.ttl v.now).2 := by
  obtain ⟨shut, u, signedIn⟩ := h
  unfold Guard.decide
  rw [shut, signedIn]
  rcases s.take g.ttl v.now with ⟨_ | _ | p, s'⟩ <;> rfl

theorem store_of_quiet (h : ¬ g.Denies v ∧ ¬ g.Admits v) :
    (g.decide v.auth v.path v.now s).2 = s := by
  unfold Guard.decide
  obtain unguarded | ⟨u, loading⟩ := quiet_iff.mp h
  · rw [if_pos unguarded]
  · rw [loading]
    split <;> rfl

theorem decide_resume_iff {i : Option Intent} {p : String} (h : s.Keeps i) :
    (g.decide v.auth v.path v.now s).1 = .resume p ↔
      g.Admits v ∧ i.bind (·.fresh g.ttl v.now) = some p ∧ p ≠ v.path := by
  by_cases denies : g.Denies v
  · have stays : ¬ g.Admits v := fun ⟨_, u, signedIn⟩ => nomatch denies.2.symm.trans signedIn
    rw [decide_of_denies denies]
    exact ⟨fun h => (nomatch h), fun h => absurd h.1 stays⟩
  by_cases admits : g.Admits v
  · obtain ⟨shut, u, signedIn⟩ := id admits
    have taken := (h.take g.ttl v.now).1
    unfold Guard.decide
    rw [shut, signedIn]
    cases read : s.take g.ttl v.now with
    | mk r s' =>
      rw [read] at taken
      obtain rfl : r = .ok (i.bind (·.fresh g.ttl v.now)) := taken
      cases i.bind (·.fresh g.ttl v.now) with
      | none => exact ⟨fun h => (nomatch h), fun h => nomatch h.2.1⟩
      | some q =>
        show (if q = v.path then Decision.render else .resume q) = .resume p ↔ _
        by_cases here : q = v.path
        · rw [if_pos here]
          constructor
          · exact fun h => nomatch h
          · rintro ⟨-, same, away⟩
            exact absurd (Option.some_inj.mp same ▸ here) away
        · rw [if_neg here, Decision.resume.injEq, Option.some_inj]
          constructor
          · rintro rfl
            exact ⟨admits, rfl, here⟩
          · exact fun h => h.2.1
  · refine ⟨fun resumed => ?_, fun h => absurd h.1 admits⟩
    unfold Guard.decide at resumed
    obtain unguarded | ⟨u, loading⟩ := quiet_iff.mp ⟨denies, admits⟩
    · rw [if_pos unguarded] at resumed
      exact nomatch resumed
    · rw [loading] at resumed
      split at resumed <;> exact nomatch resumed

def leaves (g : Guard) (v : Visit) (i : Option Intent) : Option Intent :=
  if g.isPublic v.path then i
  else
    match v.auth with
    | .loading _ => i
    | .authenticated _ => none
    | .unauthenticated => some ⟨v.path, v.now⟩

theorem leaves_of_denies (h : g.Denies v) (i : Option Intent) :
    g.leaves v i = some ⟨v.path, v.now⟩ := by
  rw [leaves, h.1, h.2]
  rfl

theorem leaves_of_admits (h : g.Admits v) (i : Option Intent) : g.leaves v i = none := by
  obtain ⟨shut, u, signedIn⟩ := h
  rw [leaves, shut, signedIn]
  rfl

theorem leaves_of_quiet (h : ¬ g.Denies v ∧ ¬ g.Admits v) (i : Option Intent) :
    g.leaves v i = i := by
  obtain unguarded | ⟨u, loading⟩ := quiet_iff.mp h
  · exact if_pos unguarded
  · rw [leaves, loading]
    split <;> rfl

theorem keeps_decide {i : Option Intent} (h : s.Keeps i) :
    (g.decide v.auth v.path v.now s).2.Keeps (g.leaves v i) := by
  by_cases denies : g.Denies v
  · rw [decide_of_denies denies, leaves_of_denies denies]
    exact h.save _
  by_cases admits : g.Admits v
  · rw [store_of_admits admits, leaves_of_admits admits]
    exact (h.take g.ttl v.now).2
  · rw [store_of_quiet ⟨denies, admits⟩, leaves_of_quiet ⟨denies, admits⟩]
    exact h

theorem isFile_decide : (g.decide v.auth v.path v.now s).2.isFile = s.isFile := by
  by_cases denies : g.Denies v
  · rw [decide_of_denies denies]
    cases s <;> rfl
  by_cases admits : g.Admits v
  · rw [store_of_admits admits]
    cases s <;> rfl
  · rw [store_of_quiet ⟨denies, admits⟩]

def left (g : Guard) (i : Option Intent) : List Passage → Option Intent
  | [] => i
  | .visit v :: es => g.left (g.leaves v i) es
  | .reopen :: es => g.left i es

theorem keeps_after {i : Option Intent} (h : s.Keeps i) (kept : s.isFile = true ∨ .reopen ∉ es) :
    (g.after s es).Keeps (g.left i es) := by
  induction es generalizing s i with
  | nil => exact h
  | cons e es ih =>
    have later : .reopen ∉ e :: es → .reopen ∉ es := mt (List.mem_cons_of_mem e)
    cases e with
    | visit v => exact ih (keeps_decide h) (kept.imp isFile_decide.trans later)
    | reopen =>
      cases s with
      | file f => exact ih (s := .file f) h (.inl rfl)
      | memory slot =>
        obtain gone | stays := kept
        · exact nomatch gone
        · exact absurd List.mem_cons_self stays

theorem left_append (i : Option Intent) (es fs : List Passage) :
    g.left i (es ++ fs) = g.left (g.left i es) fs := by
  induction es generalizing i with
  | nil => rfl
  | cons e es ih => cases e <;> exact ih _

theorem lt_of_visit? {j : Nat} (h : visit? es j = some v) : j < es.length := by
  by_contra beyond
  rw [visit?, List.getElem?_eq_none (Nat.not_lt.mp beyond)] at h
  exact nomatch h

theorem visit?_take {j k : Nat} (h : k < j) : visit? (es.take j) k = visit? es k := by
  rw [visit?, visit?, List.getElem?_take_of_lt h]

theorem visit?_append {k : Nat} (h : k < es.length) (fs : List Passage) :
    visit? (es ++ fs) k = visit? es k := by
  rw [visit?, visit?, List.getElem?_append_left h]

theorem visit?_snoc (es : List Passage) (e : Passage) :
    visit? (es ++ [e]) es.length = some v ↔ e = .visit v := by
  rw [visit?, List.getElem?_concat_length]
  cases e <;> simp

theorem lastDenial_snoc {e : Passage} {k : Nat} {w : Visit} :
    g.LastDenial (es ++ [e]) k (es.length + 1) w ↔
      (k = es.length ∧ e = .visit w ∧ g.Denies w) ∨
      (g.LastDenial es k es.length w ∧ ∀ v, e = .visit v → ¬ g.Denies v ∧ ¬ g.Admits v) := by
  constructor
  · intro h
    obtain before | rfl := Nat.lt_succ_iff_lt_or_eq.mp h.earlier
    · refine .inr ⟨⟨before, visit?_append before _ ▸ h.visited, h.denied, fun l v after within hv =>
        h.quiet l v after (Nat.lt_succ_of_lt within) (visit?_append within _ ▸ hv)⟩, fun v hv => ?_⟩
      exact h.quiet es.length v before (Nat.lt_succ_self _) ((visit?_snoc es e).mpr hv)
    · exact .inl ⟨rfl, (visit?_snoc es e).mp h.visited, h.denied⟩
  · rintro (⟨rfl, rfl, denied⟩ | ⟨h, quiet⟩)
    · exact ⟨Nat.lt_succ_self _, (visit?_snoc es _).mpr rfl, denied, fun l v after within _ =>
        absurd (Nat.lt_of_lt_of_le after (Nat.le_of_lt_succ within)) (Nat.lt_irrefl _)⟩
    · refine ⟨Nat.lt_succ_of_lt h.earlier, (visit?_append h.earlier _).trans h.visited, h.denied,
        fun l v after within hv => ?_⟩
      obtain before | rfl := Nat.lt_succ_iff_lt_or_eq.mp within
      · exact h.quiet l v after before ((visit?_append before _).symm.trans hv)
      · exact quiet v ((visit?_snoc es e).mp hv)

/-- The last navigation that counts in the history was denied and left the intent `i`. -/
def Owes (g : Guard) (es : List Passage) (i : Intent) : Prop :=
  ∃ k w, g.LastDenial es k es.length w ∧ i = ⟨w.path, w.now⟩

theorem owes_snoc {e : Passage} {i : Intent} : g.Owes (es ++ [e]) i ↔
    (∃ w, e = .visit w ∧ g.Denies w ∧ i = ⟨w.path, w.now⟩) ∨
    (g.Owes es i ∧ ∀ v, e = .visit v → ¬ g.Denies v ∧ ¬ g.Admits v) := by
  rw [Owes, List.length_append, List.length_singleton]
  simp only [lastDenial_snoc]
  constructor
  · rintro ⟨k, w, ⟨-, here, denied⟩ | ⟨h, quiet⟩, left⟩
    · exact .inl ⟨w, here, denied, left⟩
    · exact .inr ⟨⟨k, w, h, left⟩, quiet⟩
  · rintro (⟨w, here, denied, left⟩ | ⟨⟨k, w, h, left⟩, quiet⟩)
    · exact ⟨_, w, .inl ⟨rfl, here, denied⟩, left⟩
    · exact ⟨k, w, .inr ⟨h, quiet⟩, left⟩

theorem left_eq_some {i : Intent} : g.left none es = some i ↔ g.Owes es i := by
  induction es using List.reverseRecOn generalizing i with
  | nil => exact ⟨fun h => (nomatch h), fun ⟨k, _, h, _⟩ => absurd h.earlier (Nat.not_lt_zero k)⟩
  | append_singleton es e ih =>
    rw [left_append, owes_snoc, ← ih]
    cases e with
    | reopen =>
      exact ⟨fun h => .inr ⟨h, fun _ h => nomatch h⟩, fun h => h.elim (fun ⟨_, h, _⟩ => nomatch h)
        And.left⟩
    | visit v =>
      show g.leaves v _ = some i ↔ _
      by_cases denies : g.Denies v
      · rw [leaves_of_denies denies, Option.some_inj]
        constructor
        · rintro rfl
          exact .inl ⟨v, rfl, denies, rfl⟩
        · rintro (⟨w, same, -, rfl⟩ | ⟨-, quiet⟩)
          · obtain rfl := Passage.visit.inj same
            rfl
          · exact absurd denies (quiet v rfl).1
      by_cases admits : g.Admits v
      · rw [leaves_of_admits admits]
        constructor
        · exact fun h => nomatch h
        · rintro (⟨w, same, denied, -⟩ | ⟨-, quiet⟩)
          · exact absurd (Passage.visit.inj same ▸ denied) denies
          · exact absurd admits (quiet v rfl).2
      · rw [leaves_of_quiet ⟨denies, admits⟩]
        constructor
        · intro kept
          refine .inr ⟨kept, fun w same => ?_⟩
          obtain rfl := Passage.visit.inj same
          exact ⟨denies, admits⟩
        · rintro (⟨w, same, denied, -⟩ | ⟨kept, -⟩)
          · exact absurd (Passage.visit.inj same ▸ denied) denies
          · exact kept

theorem keeps_none_of_vacant (h : s.Vacant) : s.Keeps none := by
  obtain rfl | rfl | rfl := h
  · exact .memory none
  · exact .absent
  · exact .empty

theorem lastDenial_take {i j : Nat} {w : Visit} (h : j ≤ es.length) :
    g.LastDenial (es.take j) i (es.take j).length w ↔ g.LastDenial es i j w := by
  rw [List.length_take_of_le h]
  constructor
  · exact fun h => ⟨h.earlier, visit?_take h.earlier ▸ h.visited, h.denied, fun k v after before hv =>
      h.quiet k v after before ((visit?_take before).trans hv)⟩
  · exact fun h => ⟨h.earlier, (visit?_take h.earlier).trans h.visited, h.denied,
      fun k v after before hv => h.quiet k v after before (visit?_take before ▸ hv)⟩

theorem decision?_resume_iff (vacant : s.Vacant) (kept : s.isFile = true ∨ .reopen ∉ es) {j : Nat}
    {p : String} : g.decision? s es j = some (.resume p) ↔
      ∃ v i w, visit? es j = some v ∧ g.Admits v ∧ g.LastDenial es i j w ∧ g.InTime w v ∧
        w.path = p ∧ p ≠ v.path := by
  have keeps : (g.after s (es.take j)).Keeps (g.left none (es.take j)) :=
    keeps_after (keeps_none_of_vacant vacant) (kept.imp_right (mt List.mem_of_mem_take))
  simp only [decision?, Option.map_eq_some_iff, decide_resume_iff keeps, Option.bind_eq_some_iff,
    left_eq_some, fresh_eq_some]
  constructor
  · rintro ⟨v, hv, admits, ⟨i, ⟨k, w, last, rfl⟩, young, here⟩, away⟩
    exact ⟨v, k, w, hv, admits, (lastDenial_take (Nat.le_of_lt (lt_of_visit? hv))).mp last, young,
      here, away⟩
  · rintro ⟨v, k, w, hv, admits, last, young, here, away⟩
    exact ⟨v, hv, admits, ⟨_, ⟨k, w, (lastDenial_take (Nat.le_of_lt (lt_of_visit? hv))).mpr last,
      rfl⟩, young, here⟩, away⟩

theorem after_append (g : Guard) (s : RedirectStore) (es fs : List Passage) :
    g.after s (es ++ fs) = g.after (g.after s es) fs := by
  induction es generalizing s with
  | nil => rfl
  | cons e es ih => cases e <;> exact ih _

theorem after_take_succ {j : Nat} (hv : visit? es j = some v) :
    g.after s (es.take (j + 1)) = (g.decide v.auth v.path v.now (g.after s (es.take j))).2 := by
  have here : es[j]? = some (.visit v) := by
    unfold visit? at hv
    split at hv
    · rename_i w found
      exact found.trans (congrArg (some ∘ Passage.visit) (Option.some_inj.mp hv))
    · exact nomatch hv
  rw [List.take_add_one, here, after_append]
  rfl

/-- Which navigations are sent on, and where to. So every denial is made up for at most once, the
latest one wins, nobody is sent on to a page that needs no session, and the navigations to such
pages and those before the session is known change nothing. -/
theorem resumed_iff_denied (vacant : s.Vacant) (kept : s.isFile = true ∨ .reopen ∉ es) :
    (∀ j p, g.decision? s es j = some (.resume p) ↔
      ∃ v i w, visit? es j = some v ∧ g.Admits v ∧ g.LastDenial es i j w ∧ g.InTime w v ∧
        w.path = p ∧ p ≠ v.path) ∧
    (∀ i j j' w p p', g.LastDenial es i j w → g.LastDenial es i j' w →
      g.decision? s es j = some (.resume p) → g.decision? s es j' = some (.resume p') → j = j') ∧
    (∀ i j w p, g.decision? s es j = some (.resume p) → i < j → visit? es i = some w → g.Denies w →
      (∀ k v, i < k → k < j → visit? es k = some v → ¬ g.Denies v) → w.path = p) ∧
    (∀ j p, g.decision? s es j = some (.resume p) →
      g.isPublic p = false ∧ pathPart p ≠ g.loginPath.toList) ∧
    (∀ j v, visit? es j = some v → (g.isPublic v.path = true ∨ ∃ u, v.auth = .loading u) →
      g.after s (es.take (j + 1)) = g.after s (es.take j)) := by
  have resumed {j : Nat} {p : String} := decision?_resume_iff (g := g) (j := j) (p := p) vacant kept
  refine ⟨fun j p => resumed, ?_, ?_, ?_, ?_⟩
  · intro i j j' w p p' last last' hj hj'
    -- whoever is sent on was let in, so the same denial is not the last one any more
    obtain ⟨v, _, _, hv, admits, _⟩ := resumed.mp hj
    obtain ⟨v', _, _, hv', admits', _⟩ := resumed.mp hj'
    obtain before | same | after := Nat.lt_trichotomy j j'
    · exact absurd admits (last'.quiet j v last.earlier before hv).2
    · exact same
    · exact absurd admits' (last.quiet j' v' last'.earlier after hv').2
  · intro i j w p hj before hw denied latest
    obtain ⟨v, i', w', hv, _, last, _, rfl, _⟩ := resumed.mp hj
    obtain earlier | rfl | later := Nat.lt_trichotomy i i'
    · exact absurd last.denied (latest i' w' earlier last.earlier last.visited)
    · exact congrArg Visit.path (Option.some_inj.mp (hw.symm.trans last.visited))
    · exact absurd denied (last.quiet i w later before hw).1
  · intro j p hj
    obtain ⟨v, i, w, _, _, last, _, rfl, _⟩ := resumed.mp hj
    refine ⟨last.denied.1, fun login => ?_⟩
    have unguarded : g.isPublic w.path = true := by
      rw [isPublic, login, BEq.rfl, Bool.true_or]
    exact Bool.false_ne_true (last.denied.1.symm.trans unguarded)
  · intro j v hv quiet
    rw [after_take_succ hv, store_of_quiet (quiet_iff.mpr quiet)]

def tenMinutes : Guard := ⟨"/login", ["/help"], some 600⟩

def loginRound : List Passage :=
  [.visit ⟨.unauthenticated, "/orders", 100⟩, .visit ⟨.unauthenticated, "/invoices?page=2", 160⟩,
    .reopen, .visit ⟨.unauthenticated, "/help/login", 170⟩,
    .visit ⟨.authenticated ⟨"42", "alice", none⟩, "/", 400⟩]

theorem loginRound_resumes : (RedirectStore.file .absent).Vacant ∧
    ((RedirectStore.file .absent).isFile = true ∨ .reopen ∉ loginRound) ∧
    tenMinutes.decision? (.file .absent) loginRound 4 = some (.resume "/invoices?page=2") := by
  have vacant : (RedirectStore.file .absent).Vacant := .inr (.inl rfl)
  have last : tenMinutes.LastDenial loginRound 1 4 ⟨.unauthenticated, "/invoices?page=2", 160⟩ := by
    refine ⟨by decide, rfl, ⟨by decide, rfl⟩, fun k v after before hv => ?_⟩
    obtain rfl | rfl : k = 2 ∨ k = 3 := by omega
    · exact nomatch hv
    · obtain rfl := Option.some_inj.mp hv
      exact quiet_iff.mpr (.inl (by decide))
  refine ⟨vacant, .inl rfl, ((resumed_iff_denied vacant (.inl rfl)).1 4 _).mpr
    ⟨_, 1, _, rfl, ⟨by decide, _, rfl⟩, last, ?_, rfl, by decide⟩⟩
  intro t ht
  obtain rfl := Option.some_inj.mp ht
  decide

end Guard

end ConsoleSession
