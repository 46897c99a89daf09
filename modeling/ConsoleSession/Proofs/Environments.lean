import ConsoleSession.Proofs.Settings
import ConsoleSession.Proofs.Unicode

/-!
# Configurations from environments

Every variable has one field, and what a variable is set to means one value of its field or none. An
environment is read exactly if each variable that is set to a text means something, and then each
field is what its own variable means, or the default. Otherwise the error is that of the first
variable with a fault, in the order of the checks.
-/

namespace ConsoleSession

namespace Config

abbrev Variable.Value : Variable → Type
  | .apiUrl => String
  | .loginPath => String
  | .stateDir => String
  | .publicPaths => List String
  | .redirectTtl => Option UInt64
  | .requestTimeout => UInt64
  | .connectTimeout => UInt64

def field (c : Config) : (v : Variable) → v.Value
  | .apiUrl => c.apiUrl
  | .loginPath => c.loginPath
  | .stateDir => c.stateDir
  | .publicPaths => c.publicPaths
  | .redirectTtl => c.redirectTtl
  | .requestTimeout => c.requestTimeout
  | .connectTimeout => c.connectTimeout

def Variable.checked : List Variable :=
  [.apiUrl, .loginPath, .redirectTtl, .requestTimeout, .connectTimeout]

def Variable.numeric : List Variable := [.redirectTtl, .requestTimeout, .connectTimeout]

/-- What a text sets the field of a variable to; nothing if the text does not pass the check. -/
def Means (naming : Url.Naming) : (v : Variable) → String → v.Value → Prop
  | .apiUrl, raw, base => Kept raw base ∧ Url.Accepted naming base
  | .loginPath, raw, path => path = raw ∧ raw.toList.head? = some '/'
  | .stateDir, raw, dir => dir = raw
  | .publicPaths, raw, ps => Lists raw ps
  | .redirectTtl, raw, ttl => ∃ n, ttl = some n ∧ Writes raw n.toNat
  | .requestTimeout, raw, n => Writes raw n.toNat
  | .connectTimeout, raw, n => Writes raw n.toNat

def Blames (naming : Url.Naming) : Variable → String → Error → Prop
  | .apiUrl, raw, e => ∃ base reason, Kept raw base ∧ Url.parse naming base = .error reason ∧
      e = .url raw reason
  | .loginPath, raw, e => e = .loginPath raw
  | v, raw, e => e = .number v raw

end Config

namespace Environment

variable {env : Environment} {v : Config.Variable} {raw : String}

/-- The variable is set to the octets of a text. Set to any others it counts as unset. -/
def Sets (env : Environment) (v : Config.Variable) (raw : String) : Prop :=
  env v.name = some (Utf8.ofString raw)

theorem sets_iff : env.Sets v raw ↔ env.text? v.name = some raw := by
  rw [text?, Sets]
  simp only [Option.bind_eq_bind, Option.bind_eq_some_iff, Utf8.toString?_eq_some_iff]
  exact ⟨fun h => ⟨_, h, rfl⟩, fun ⟨_, h, octets⟩ => octets ▸ h⟩

theorem Sets.unique {raw' : String} (h : env.Sets v raw) (h' : env.Sets v raw') : raw = raw' :=
  Option.some.inj ((sets_iff.mp h).symm.trans (sets_iff.mp h'))

theorem not_sets (h : env.text? v.name = none) (raw : String) : ¬ env.Sets v raw := by
  rw [sets_iff, h]
  exact nofun

end Environment

namespace Config

open Environment (sets_iff not_sets)

variable {naming : Url.Naming} {env : Environment} {v : Variable}

def Gives (naming : Url.Naming) (env : Environment) (v : Variable) (x : v.Value) : Prop :=
  (∃ raw, env.Sets v raw ∧ Means naming v raw x) ∨ (∀ raw, ¬ env.Sets v raw) ∧ x = field {} v

def Passes (naming : Url.Naming) (env : Environment) (v : Variable) : Prop :=
  ∃ x, Gives naming env v x

def Fault (naming : Url.Naming) (env : Environment) (v : Variable) (e : Error) : Prop :=
  ∃ raw, env.Sets v raw ∧ (∀ x, ¬ Means naming v raw x) ∧ Blames naming v raw e

theorem Means.unique {raw : String} {x y : v.Value} (h : Means naming v raw x)
    (h' : Means naming v raw y) : x = y := by
  have number {m n : UInt64} (h : Writes raw m.toNat) (h' : Writes raw n.toNat) : m = n :=
    Option.some.inj ((writes_iff.mp h).symm.trans (writes_iff.mp h'))
  cases v with
  | apiUrl => exact h.1.unique h'.1
  | loginPath => exact h.1.trans h'.1.symm
  | stateDir => exact Eq.trans h (Eq.symm h')
  | publicPaths => exact (readList_eq_iff.mpr h).symm.trans (readList_eq_iff.mpr h')
  | redirectTtl =>
    obtain ⟨m, rfl, hm⟩ := h
    obtain ⟨n, rfl, hn⟩ := h'
    exact congrArg some (number hm hn)
  | requestTimeout => exact number h h'
  | connectTimeout => exact number h h'

theorem Gives.unique {x y : v.Value} (h : Gives naming env v x) (h' : Gives naming env v y) :
    x = y := by
  obtain ⟨raw, sets, means⟩ | ⟨silent, rfl⟩ := h
  · obtain ⟨raw', sets', means'⟩ | ⟨silent, -⟩ := h'
    · obtain rfl := sets.unique sets'
      exact means.unique means'
    · exact absurd sets (silent raw)
  · obtain ⟨raw, sets, -⟩ | ⟨-, rfl⟩ := h'
    · exact absurd sets (silent raw)
    · rfl

theorem Fault.not_passes {e : Error} (h : Fault naming env v e) : ¬ Passes naming env v := by
  obtain ⟨raw, sets, none, -⟩ := h
  rintro ⟨x, ⟨raw', sets', means⟩ | ⟨silent, -⟩⟩
  · obtain rfl := sets.unique sets'
    exact none x means
  · exact silent raw sets

theorem Fault.names {e : Error} (h : Fault naming env v e) :
    v.name.toList <:+: e.message.toList := by
  have within (front back : String) {message : String}
      (spelled : message = front ++ v.name ++ back) : v.name.toList <:+: message.toList :=
    ⟨front.toList, back.toList, by rw [spelled, String.toList_append, String.toList_append]⟩
  obtain ⟨raw, -, -, blames⟩ := h
  cases v with
  | apiUrl =>
    obtain ⟨base, reason, -, -, rfl⟩ := blames
    refine within "invalid " (" '" ++ raw ++ "': " ++ reason.message) ?_
    simp only [← String.append_assoc]
    rfl
  | loginPath =>
    obtain rfl := blames
    refine within "config parse failed: " (" must start with '/': " ++ raw) ?_
    simp only [← String.append_assoc]
    rfl
  | _ =>
    obtain rfl := blames
    refine within "config parse failed: "
      (" must be a non-negative integer, got '" ++ raw ++ "'") ?_
    simp only [← String.append_assoc]
    rfl

theorem Fault.unique {e e' : Error} (h : Fault naming env v e) (h' : Fault naming env v e') :
    e = e' := by
  obtain ⟨raw, sets, -, blames⟩ := h
  obtain ⟨raw', sets', -, blames'⟩ := h'
  obtain rfl := sets.unique sets'
  cases v with
  | apiUrl =>
    obtain ⟨base, reason, kept, failed, rfl⟩ := blames
    obtain ⟨base', reason', kept', failed', rfl⟩ := blames'
    obtain rfl := kept.unique kept'
    cases failed.symm.trans failed'
    rfl
  | _ => exact Eq.trans blames (Eq.symm blames')

/-- The first of the variables with a fault has this one. -/
def FirstFault (naming : Url.Naming) (env : Environment) (vs : List Variable) (e : Error) : Prop :=
  ∃ before v after, vs = before ++ v :: after ∧ (∀ w ∈ before, Passes naming env w) ∧
    Fault naming env v e

variable {vs : List Variable}

theorem firstFault_cons {e : Error} : FirstFault naming env (v :: vs) e ↔
    Fault naming env v e ∨ Passes naming env v ∧ FirstFault naming env vs e := by
  constructor
  · rintro ⟨before, w, after, whole, passes, fault⟩
    cases before with
    | nil =>
      cases whole
      exact .inl fault
    | cons u before =>
      cases whole
      exact .inr ⟨passes v List.mem_cons_self, before, w, after, rfl,
        fun u hu => passes u (List.mem_cons_of_mem _ hu), fault⟩
  · rintro (fault | ⟨pass, before, w, after, rfl, passes, fault⟩)
    · exact ⟨[], v, vs, rfl, nofun, fault⟩
    · exact ⟨v :: before, w, after, rfl, List.forall_mem_cons.mpr ⟨pass, passes⟩, fault⟩

theorem FirstFault.unique {e e' : Error} (h : FirstFault naming env vs e)
    (h' : FirstFault naming env vs e') : e = e' := by
  induction vs with
  | nil =>
    obtain ⟨before, v, after, whole, -⟩ := h
    exact absurd whole.symm (List.append_ne_nil_of_right_ne_nil _ (List.cons_ne_nil _ _))
  | cons v vs ih =>
    obtain fault | ⟨pass, h⟩ := firstFault_cons.mp h
    · obtain fault' | ⟨pass, -⟩ := firstFault_cons.mp h'
      · exact fault.unique fault'
      · exact absurd pass fault.not_passes
    · obtain fault | ⟨-, h'⟩ := firstFault_cons.mp h'
      · exact absurd pass fault.not_passes
      · exact ih h h'

/-- What a reader comes to: a good value or an error that is due. -/
structure Yields {α : Type} (good : α → Prop) (due : Error → Prop) (x : Except Error α) : Prop where
  ok : ∀ a, x = .ok a → good a
  error : ∀ e, x = .error e → due e

theorem Yields.pure {α : Type} {good : α → Prop} {due : Error → Prop} {a : α} (h : good a) :
    Yields good due (.ok a) :=
  ⟨fun _ same => Except.ok.inj same ▸ h, nofun⟩

theorem Yields.throw {α : Type} {good : α → Prop} {due : Error → Prop} {e : Error} (h : due e) :
    Yields good due (.error e) :=
  ⟨nofun, fun _ same => Except.error.inj same ▸ h⟩

theorem Yields.bind {α β : Type} {given : α → Prop} {good : β → Prop} {x : Except Error α}
    {f : α → Except Error β} (h : Yields given (Fault naming env v) x)
    (hgiven : ∀ a, given a → Passes naming env v)
    (hf : ∀ a, given a → Yields good (FirstFault naming env vs) (f a)) :
    Yields good (FirstFault naming env (v :: vs)) (x >>= f) := by
  cases x with
  | error e => exact .throw (firstFault_cons.mpr (.inl (h.error e rfl)))
  | ok a =>
    have rest := hf a (h.ok a rfl)
    refine ⟨rest.ok, fun e failed => ?_⟩
    exact firstFault_cons.mpr (.inr ⟨hgiven a (h.ok a rfl), rest.error e failed⟩)

open Url in
theorem accepted_default : Accepted naming (field {} .apiUrl) := by
  have hhost : Host.ofSpecial naming "127.0.0.1".toList = .ok (.ipv4 0x7F000001) :=
    (Host.ofSpecial_of_isPlainName (by decide) rfl (by decide)).trans rfl
  have hsplit : splitScheme (cleaned (field {} .apiUrl).toList) =
      some ("http".toList, "//127.0.0.1:8000".toList) := by decide
  have hspan : "127.0.0.1:8000".toList.span (fun c => !Kind.special.endsAuthority c) =
      ("127.0.0.1:8000".toList, []) := by decide
  rw [Accepted, parse, parseChars_of_splitScheme hsplit]
  show (parseSpecial naming _ _).isOk = true
  rw [parseSpecial_eq, isOk_map]
  show (splitAuthority naming _ .special "127.0.0.1:8000".toList).isOk = true
  rw [splitAuthority_of_not_vacant hspan fun h => h.2.2.2 rfl]
  show ((Host.ofSpecial naming "127.0.0.1".toList).bind _).isOk = true
  rw [hhost]
  rfl

theorem readUrl_default : readUrl naming (field {} .apiUrl) = .ok (field {} .apiUrl) :=
  readUrl_eq_ok.mpr ⟨by decide, accepted_default⟩

theorem readUrl_yields (env : Environment) :
    Yields (Gives naming env .apiUrl) (Fault naming env .apiUrl)
      (readUrl naming ((env.text? Variable.apiUrl.name).getD (field {} .apiUrl))) := by
  cases said : env.text? Variable.apiUrl.name with
  | none =>
    rw [Option.getD_none, readUrl_default]
    exact .pure (.inr ⟨not_sets said, rfl⟩)
  | some raw =>
    rw [Option.getD_some]
    refine ⟨fun base read => ?_, fun e failed => ?_⟩
    · obtain ⟨kept, accepted⟩ := readUrl_eq_ok.mp read
      exact .inl ⟨raw, sets_iff.mpr said, kept_iff.mpr kept, accepted⟩
    · refine ⟨raw, sets_iff.mpr said, fun base means => ?_, readUrl_eq_error.mp failed⟩
      have read := readUrl_eq_ok.mpr ⟨kept_iff.mp means.1, means.2⟩
      exact nomatch read.symm.trans failed

theorem readLoginPath_yields (env : Environment) :
    Yields (Gives naming env .loginPath) (Fault naming env .loginPath)
      (readLoginPath ((env.text? Variable.loginPath.name).getD (field {} .loginPath))) := by
  cases said : env.text? Variable.loginPath.name with
  | none => exact .pure (.inr ⟨not_sets said, rfl⟩)
  | some raw =>
    rw [Option.getD_some, readLoginPath]
    split
    next rooted => exact .pure (.inl ⟨raw, sets_iff.mpr said, rfl, rooted⟩)
    next rootless =>
      exact .throw ⟨raw, sets_iff.mpr said, fun path means => rootless means.2, rfl⟩

/-- A variable whose text writes a number, and the value of its field with a number or without. -/
structure Counts (naming : Url.Naming) (v : Variable) (value : Option UInt64 → v.Value) : Prop where
  means : ∀ raw x, Means naming v raw x ↔ ∃ n, x = value (some n) ∧ Writes raw n.toNat
  unset : value none = field {} v
  blames : ∀ raw, Blames naming v raw (.number v raw)

theorem counts_redirectTtl : Counts naming .redirectTtl id :=
  ⟨fun _ _ => Iff.rfl, rfl, fun _ => rfl⟩

theorem counts_requestTimeout : Counts naming .requestTimeout (·.getD (field {} .requestTimeout)) :=
  ⟨fun _ n => ⟨fun h => ⟨n, rfl, h⟩, fun ⟨_, same, h⟩ => same ▸ h⟩, rfl, fun _ => rfl⟩

theorem counts_connectTimeout : Counts naming .connectTimeout (·.getD (field {} .connectTimeout)) :=
  ⟨fun _ n => ⟨fun h => ⟨n, rfl, h⟩, fun ⟨_, same, h⟩ => same ▸ h⟩, rfl, fun _ => rfl⟩

theorem readNumber_yields {value : Option UInt64 → v.Value} (counts : Counts naming v value)
    (env : Environment) :
    Yields (fun o => Gives naming env v (value o)) (Fault naming env v) (readNumber env v) := by
  rw [readNumber]
  cases said : env.text? v.name with
  | none => exact .pure (.inr ⟨not_sets said, counts.unset⟩)
  | some raw =>
    dsimp only
    split
    next n read =>
      have means := (counts.means raw _).mpr ⟨n, rfl, writes_iff.mpr read⟩
      exact .pure (.inl ⟨raw, sets_iff.mpr said, means⟩)
    next unread =>
      refine .throw ⟨raw, sets_iff.mpr said, fun x means => ?_, counts.blames raw⟩
      obtain ⟨n, -, writes⟩ := (counts.means raw x).mp means
      exact nomatch unread.symm.trans (writes_iff.mp writes)

theorem gives_stateDir (env : Environment) :
    Gives naming env .stateDir ((env.text? Variable.stateDir.name).getD (field {} .stateDir)) := by
  cases said : env.text? Variable.stateDir.name with
  | none => exact .inr ⟨not_sets said, rfl⟩
  | some raw => exact .inl ⟨raw, sets_iff.mpr said, rfl⟩

theorem gives_publicPaths (env : Environment) :
    Gives naming env .publicPaths
      (((env.text? Variable.publicPaths.name).map readList).getD (field {} .publicPaths)) := by
  cases said : env.text? Variable.publicPaths.name with
  | none => exact .inr ⟨not_sets said, rfl⟩
  | some raw => exact .inl ⟨raw, sets_iff.mpr said, readList_eq_iff.mp rfl⟩

theorem readEnvironment_yields (naming : Url.Naming) (env : Environment) :
    Yields (fun c => ∀ v, Gives naming env v (c.field v)) (FirstFault naming env Variable.checked)
      (readEnvironment naming env) := by
  unfold readEnvironment Variable.checked
  refine (readUrl_yields env).bind (fun _ h => ⟨_, h⟩) fun apiUrl hurl => ?_
  refine (readLoginPath_yields env).bind (fun _ h => ⟨_, h⟩) fun loginPath hlogin => ?_
  refine (readNumber_yields counts_redirectTtl env).bind (fun _ h => ⟨_, h⟩) fun ttl httl => ?_
  refine (readNumber_yields counts_requestTimeout env).bind (fun _ h => ⟨_, h⟩)
    fun request hrequest => ?_
  refine (readNumber_yields counts_connectTimeout env).bind (fun _ h => ⟨_, h⟩)
    fun connect hconnect => ?_
  refine .pure fun v => ?_
  cases v with
  | apiUrl => exact hurl
  | loginPath => exact hlogin
  | stateDir => exact gives_stateDir env
  | publicPaths => exact gives_publicPaths env
  | redirectTtl => exact httl
  | requestTimeout => exact hrequest
  | connectTimeout => exact hconnect

theorem ext_field {c c' : Config} (h : ∀ v, c.field v = c'.field v) : c = c' := by
  cases c
  cases c'
  obtain rfl := h .apiUrl
  obtain rfl := h .loginPath
  obtain rfl := h .stateDir
  obtain rfl := h .publicPaths
  obtain rfl := h .redirectTtl
  obtain rfl := h .requestTimeout
  obtain rfl := h .connectTimeout
  rfl

theorem readEnvironment_cases (naming : Url.Naming) (env : Environment) :
    (∃ c, readEnvironment naming env = .ok c ∧ ∀ v, Gives naming env v (c.field v)) ∨
      ∃ e, readEnvironment naming env = .error e ∧ FirstFault naming env Variable.checked e := by
  have yields := readEnvironment_yields naming env
  cases read : readEnvironment naming env with
  | ok c => exact .inl ⟨c, rfl, yields.ok c read⟩
  | error e => exact .inr ⟨e, rfl, yields.error e read⟩

theorem FirstFault.not_passes {e : Error} (h : FirstFault naming env vs e) :
    ∃ v ∈ vs, ¬ Passes naming env v := by
  obtain ⟨before, v, after, rfl, -, fault⟩ := h
  exact ⟨v, List.mem_append_right _ List.mem_cons_self, fault.not_passes⟩

theorem readEnvironment_eq_ok_iff {c : Config} :
    readEnvironment naming env = .ok c ↔ ∀ v, Gives naming env v (c.field v) := by
  constructor
  · exact (readEnvironment_yields naming env).ok c
  · intro gives
    obtain ⟨c', read, gives'⟩ | ⟨e, -, fault⟩ := readEnvironment_cases naming env
    · rw [read, ext_field fun v => (gives v).unique (gives' v)]
    · obtain ⟨v, -, fails⟩ := fault.not_passes
      exact absurd ⟨_, gives v⟩ fails

theorem readEnvironment_unset (h : ∀ v raw, ¬ env.Sets v raw) :
    readEnvironment naming env = .ok {} :=
  readEnvironment_eq_ok_iff.mpr fun v => .inr ⟨h v, rfl⟩

theorem readEnvironment_eq_error_iff {e : Error} :
    readEnvironment naming env = .error e ↔ FirstFault naming env Variable.checked e := by
  constructor
  · exact (readEnvironment_yields naming env).error e
  · intro fault
    obtain ⟨c, -, gives⟩ | ⟨e', read, fault'⟩ := readEnvironment_cases naming env
    · obtain ⟨v, -, fails⟩ := fault.not_passes
      exact absurd ⟨_, gives v⟩ fails
    · rw [read, fault.unique fault']

theorem passes_iff : Passes naming env v ↔ ∀ raw, env.Sets v raw → ∃ x, Means naming v raw x := by
  constructor
  · rintro ⟨x, ⟨raw, sets, means⟩ | ⟨silent, -⟩⟩ raw' sets'
    · exact sets.unique sets' ▸ ⟨x, means⟩
    · exact absurd sets' (silent raw')
  · intro h
    by_cases silent : ∀ raw, ¬ env.Sets v raw
    · exact ⟨_, .inr ⟨silent, rfl⟩⟩
    · obtain ⟨raw, sets⟩ := not_forall_not.mp silent
      obtain ⟨x, means⟩ := h raw sets
      exact ⟨x, .inl ⟨raw, sets, means⟩⟩

theorem exists_ok_iff : (∃ c, readEnvironment naming env = .ok c) ↔ ∀ v, Passes naming env v := by
  constructor
  · rintro ⟨c, read⟩ v
    exact ⟨_, readEnvironment_eq_ok_iff.mp read v⟩
  · intro passes
    obtain ⟨c, read, -⟩ | ⟨e, -, fault⟩ := readEnvironment_cases naming env
    · exact ⟨c, read⟩
    · obtain ⟨v, -, fails⟩ := fault.not_passes
      exact absurd (passes v) fails

theorem Counts.exists_means_iff {value : Option UInt64 → v.Value} (counts : Counts naming v value)
    {raw : String} : (∃ x, Means naming v raw x) ↔ ∃ n < 2 ^ 64, Writes raw n := by
  constructor
  · rintro ⟨x, means⟩
    obtain ⟨n, -, writes⟩ := (counts.means raw x).mp means
    exact ⟨n.toNat, n.toNat_lt, writes⟩
  · rintro ⟨n, small, writes⟩
    have number : (UInt64.ofNat n).toNat = n := UInt64.toNat_ofNat_of_lt' small
    exact ⟨_, (counts.means raw _).mpr ⟨UInt64.ofNat n, rfl, number.symm ▸ writes⟩⟩

theorem exists_means_of_numeric (hv : v ∈ Variable.numeric) {raw : String} :
    (∃ x, Means naming v raw x) ↔ ∃ n < 2 ^ 64, Writes raw n := by
  simp only [Variable.numeric, List.mem_cons, List.not_mem_nil, or_false] at hv
  obtain rfl | rfl | rfl := hv
  · exact counts_redirectTtl.exists_means_iff
  · exact counts_requestTimeout.exists_means_iff
  · exact counts_connectTimeout.exists_means_iff

theorem passes_all_iff : (∀ v, Passes naming env v) ↔
    (∀ raw, env.Sets .apiUrl raw → ∃ base, Kept raw base ∧ Url.Accepted naming base) ∧
    (∀ raw, env.Sets .loginPath raw → raw.toList.head? = some '/') ∧
    ∀ v ∈ Variable.numeric, ∀ raw, env.Sets v raw → ∃ n < 2 ^ 64, Writes raw n := by
  simp only [passes_iff]
  constructor
  · intro passes
    refine ⟨passes .apiUrl, fun raw sets => ?_, fun v hv raw sets => ?_⟩
    · obtain ⟨path, rfl, rooted⟩ := passes .loginPath raw sets
      exact rooted
    · exact (exists_means_of_numeric hv).mp (passes v raw sets)
  · rintro ⟨url, login, number⟩ v raw sets
    have numeric (hv : v ∈ Variable.numeric) : ∃ x, Means naming v raw x :=
      (exists_means_of_numeric hv).mpr (number v hv raw sets)
    cases v with
    | apiUrl => exact url raw sets
    | loginPath => exact ⟨raw, rfl, login raw sets⟩
    | stateDir => exact ⟨raw, rfl⟩
    | publicPaths => exact ⟨_, readList_eq_iff.mp rfl⟩
    | _ => exact numeric (by decide)

theorem Gives.congr {env' : Environment} (h : ∀ raw, env.Sets v raw ↔ env'.Sets v raw)
    (x : v.Value) : Gives naming env v x ↔ Gives naming env' v x := by
  simp only [Gives, h]

theorem readEnvironment_congr {env' : Environment}
    (h : ∀ v raw, env.Sets v raw ↔ env'.Sets v raw) :
    readEnvironment naming env = readEnvironment naming env' := by
  have texts (v : Variable) : env.text? v.name = env'.text? v.name :=
    Option.ext fun raw => by rw [← sets_iff, ← sets_iff, h]
  unfold readEnvironment readNumber
  simp only [texts]

theorem entries_of_gives {ps : List String} (h : Gives naming env .publicPaths ps) :
    ∀ p ∈ ps, Entry p := by
  obtain ⟨raw, -, lists⟩ | ⟨-, rfl⟩ := h
  · exact Lists.entry lists
  · exact fun _ member => absurd member List.not_mem_nil

/-- However names are written in ASCII, an environment is read exactly if the address it sets can be
parsed when it is trimmed and bare of slashes at its end, the login path starts with a slash and
every number is made of digits behind one plus sign or none and has 64 bits. Otherwise the error is
that of the first variable with a fault, in the order of the checks. Each field is what the text of
its own variable means, or the default if it is set to no text, so octets that are no text are as
good as none. The public paths, joined with commas, are read again as they are. -/
theorem read_field_by_field (naming : Url.Naming) (env : Environment) :
    ((∃ c, readEnvironment naming env = .ok c) ↔
      (∀ raw, env.Sets .apiUrl raw → ∃ base, Kept raw base ∧ Url.Accepted naming base) ∧
      (∀ raw, env.Sets .loginPath raw → raw.toList.head? = some '/') ∧
      ∀ v ∈ Variable.numeric, ∀ raw, env.Sets v raw → ∃ n < 2 ^ 64, Writes raw n) ∧
    (∀ e, readEnvironment naming env = .error e ↔ ∃ before v after,
      Variable.checked = before ++ v :: after ∧ (∀ w ∈ before, Passes naming env w) ∧
      Fault naming env v e) ∧
    (∀ c, readEnvironment naming env = .ok c ↔ ∀ v, Gives naming env v (c.field v)) ∧
    (∀ c, readEnvironment naming env = .ok c →
      ∀ v raw x, env.Sets v raw → Means naming v raw x → c.field v = x) ∧
    (∀ env' c c', readEnvironment naming env = .ok c → readEnvironment naming env' = .ok c' →
      ∀ v, (∀ raw, env.Sets v raw ↔ env'.Sets v raw) → c.field v = c'.field v) ∧
    (∀ env', (∀ v raw, env.Sets v raw ↔ env'.Sets v raw) →
      readEnvironment naming env' = readEnvironment naming env) ∧
    ∀ c, readEnvironment naming env = .ok c →
      readList (",".intercalate c.publicPaths) = c.publicPaths := by
  refine ⟨exists_ok_iff.trans passes_all_iff, fun e => readEnvironment_eq_error_iff,
    fun c => readEnvironment_eq_ok_iff, fun c read v raw x sets means => ?_,
    fun env' c c' read read' v same => ?_, fun env' same => ?_, fun c read => ?_⟩
  · exact (readEnvironment_eq_ok_iff.mp read v).unique (.inl ⟨raw, sets, means⟩)
  · have gives := readEnvironment_eq_ok_iff.mp read v
    exact ((Gives.congr same _).mp gives).unique (readEnvironment_eq_ok_iff.mp read' v)
  · exact (readEnvironment_congr same).symm
  · have entries := entries_of_gives (readEnvironment_eq_ok_iff.mp read .publicPaths)
    exact readList_eq_iff.mpr (lists_intercalate entries)

def setting (values : List (Variable × Utf8.Octets)) : Environment := fun name =>
  (values.find? fun value => value.1.name = name).map (·.2)

def kitchen : Environment := setting [
  (.apiUrl, Utf8.ofString " https://kitchen.example.com// "), (.stateDir, [0xFF]),
  (.publicPaths, Utf8.ofString " /a ,,/b"), (.redirectTtl, Utf8.ofString "+0600 "),
  (.requestTimeout, Utf8.ofString "18446744073709551615")]

def kitchenConfig : Config where
  apiUrl := "https://kitchen.example.com"
  publicPaths := ["/a", "/b"]
  redirectTtl := some 600
  requestTimeout := 18446744073709551615

def overfull : Environment := setting [
  (.redirectTtl, Utf8.ofString "18446744073709551616"), (.connectTimeout, Utf8.ofString "soon")]

/-- Each text has blanks, slashes or a sign to spare, except for the largest number there is; one
more is the first fault. -/
theorem kitchen_settings :
    ofEnvironment kitchen = .ok kitchenConfig ∧
    readList (",".intercalate kitchenConfig.publicPaths) = kitchenConfig.publicPaths ∧
    ofEnvironment overfull = .error (.number .redirectTtl "18446744073709551616") := by
  obtain ⟨-, -, read, -, -, -, rejoined⟩ := read_field_by_field .standard kitchen
  obtain ⟨-, failure, -⟩ := read_field_by_field .standard overfull
  have gives : ofEnvironment kitchen = .ok kitchenConfig := (read kitchenConfig).mpr fun v => by
    cases v with
    | apiUrl =>
      have kept : Kept " https://kitchen.example.com// " kitchenConfig.apiUrl :=
        kept_iff.mpr (by decide)
      exact .inl ⟨_, rfl, kept, by unfold Url.Accepted; decide +kernel⟩
    | publicPaths => exact .inl ⟨" /a ,,/b", rfl, readList_eq_iff.mp (by decide)⟩
    | redirectTtl => exact .inl ⟨"+0600 ", rfl, 600, rfl, writes_iff.mpr (by decide)⟩
    | requestTimeout => exact .inl ⟨"18446744073709551615", rfl, writes_iff.mpr (by decide)⟩
    | _ => exact .inr ⟨not_sets (by decide), rfl⟩
  have passes : ∀ w ∈ [Variable.apiUrl, .loginPath], Passes .standard overfull w := by
    intro w member
    simp only [List.mem_cons, List.not_mem_nil, or_false] at member
    obtain rfl | rfl := member
    · exact ⟨_, .inr ⟨not_sets (by decide), rfl⟩⟩
    · exact ⟨_, .inr ⟨not_sets (by decide), rfl⟩⟩
  have fault : Fault .standard overfull .redirectTtl
      (.number .redirectTtl "18446744073709551616") := by
    refine ⟨_, rfl, ?_, rfl⟩
    rintro ttl ⟨n, -, writes⟩
    have unread : readDigits (Text.trimBlank "18446744073709551616".toList) = none := by decide
    exact nomatch unread.symm.trans (writes_iff.mp writes)
  exact ⟨gives, rejoined _ gives, (failure _).mpr ⟨_, _, _, rfl, passes, fault⟩⟩

end Config

end ConsoleSession
