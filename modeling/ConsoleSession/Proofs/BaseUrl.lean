import ConsoleSession.Config
import ConsoleSession.Endpoint
import ConsoleSession.Proofs.Appending

/-!
# What can be built on the address of the backend

The address is checked once, as it is kept, and every request puts a slash and a path behind it. The
check drops blanks at both ends, and reading the setting trims blanks before it strips slashes, so
a blank in front of the slashes stays at the end of what is kept. There it is neither trimmed nor
checked, and once a path stands behind it, it is part of the URL.
-/

namespace ConsoleSession.Url

open Text (trimEnd trimEnd_spec trimEnd_cons trimEnd_append trimEnd_eq_self mem_trimEnd
  mem_dropWhile span_spec span_append_of_mem dropWhile_append_stop getLast?_dropWhile)

variable {naming : Naming} {scheme rest xs ys : List Char}

def cleaned (input : List Char) : List Char :=
  (trimEnd isOuterBlank (input.dropWhile isOuterBlank)).filter fun c => !isBreak c

theorem parseChars_eq (input : List Char) : parseChars naming input =
    match splitScheme (cleaned input) with
    | none => .error .relativeWithoutBase
    | some (scheme, rest) => parseRest naming scheme rest := rfl

theorem parseChars_of_splitScheme (h : splitScheme (cleaned xs) = some (scheme, rest)) :
    parseChars naming xs = parseRest naming scheme rest := by
  rw [parseChars_eq, h]

theorem splitScheme_of_isOk (h : (parseChars naming xs).isOk = true) :
    ∃ scheme rest, splitScheme (cleaned xs) = some (scheme, rest) := by
  rw [parseChars_eq] at h
  cases hsplit : splitScheme (cleaned xs) with
  | none =>
    rw [hsplit] at h
    cases h
  | some parts => exact ⟨_, _, rfl⟩

theorem splitScheme_spec (h : splitScheme xs = some (scheme, rest)) :
    ∃ name, xs = name ++ ':' :: rest ∧ (∀ c ∈ name, isSchemeChar c = true) ∧
      ∀ ys, splitScheme (xs ++ ys) = some (scheme, rest ++ ys) := by
  obtain ⟨name, left, rfl, hname, hleft, hspan⟩ := span_spec isSchemeChar xs
  unfold splitScheme at h
  rw [hspan] at h
  split at h
  next c cs cs' heq =>
    cases heq
    split at h
    next halpha =>
      cases h
      refine ⟨c :: cs, rfl, hname, fun ys => ?_⟩
      unfold splitScheme
      rw [span_append_of_mem ⟨':', by simp, by decide⟩, hspan]
      exact if_pos halpha
    next => cases h
  next => cases h

theorem isOuterBlank_of_isBreak {c : Char} (h : isBreak c = true) : isOuterBlank c = true := by
  have hcases : (c = '\t' ∨ c = '\n') ∨ c = '\r' := by simpa [isBreak] using h
  obtain (rfl | rfl) | rfl := hcases <;> decide

theorem not_isBreak {c : Char} (h : isOuterBlank c = false) : isBreak c = false :=
  Bool.eq_false_iff.2 fun hbreak => by simp [isOuterBlank_of_isBreak hbreak] at h

theorem mem_cleaned {c : Char} (hc : c ∈ xs) (h : isOuterBlank c = false) : c ∈ cleaned xs := by
  refine List.mem_filter.2 ⟨mem_trimEnd (mem_dropWhile hc h) h, ?_⟩
  rw [not_isBreak h]
  rfl

theorem getLast?_cleaned (h : xs.getLast?.any isOuterBlank = false) :
    (cleaned xs).getLast? = xs.getLast? := by
  induction xs using List.reverseRecOn with
  | nil => rfl
  | append_singleton xs c _ =>
    rw [List.getLast?_concat] at h ⊢
    rw [cleaned, dropWhile_append_stop h, trimEnd_append h, List.filter_append,
      List.filter_cons_of_pos (by rw [not_isBreak h]; rfl)]
    exact List.getLast?_concat

theorem cleaned_append (xs : List Char) : ∃ blanks,
    (xs.getLast?.any isOuterBlank = false → blanks = []) ∧
    ∀ ys, cleaned (xs ++ '/' :: ys) =
      cleaned xs ++ blanks ++ '/' :: (trimEnd isOuterBlank ys).filter fun c => !isBreak c := by
  -- What alone is trimmed off stands inside now, and of it only line breaks are taken out.
  obtain ⟨blanks, hblanks, -⟩ := trimEnd_spec isOuterBlank (xs.dropWhile isOuterBlank)
  refine ⟨blanks.filter fun c => !isBreak c, fun hlast => ?_, fun ys => ?_⟩
  · rw [trimEnd_eq_self (by rwa [getLast?_dropWhile hlast])] at hblanks
    rw [List.self_eq_append_right.1 hblanks, List.filter_nil]
  · rw [cleaned, dropWhile_append_stop (by decide), trimEnd_append (by decide), List.filter_append,
      List.filter_cons_of_pos (by decide), cleaned, ← List.filter_append, ← hblanks]

theorem Tail.inner (h : Tail ys) : Tail ((trimEnd isOuterBlank ys).filter fun c => !isBreak c) := by
  obtain rfl | ⟨zs, rfl⟩ := h
  · exact .inl rfl
  · refine .inr ⟨(trimEnd isOuterBlank zs).filter fun c => !isBreak c, ?_⟩
    rw [trimEnd_cons (by decide), trimEnd_cons (by decide), trimEnd_cons (by decide),
      trimEnd_cons (by decide)]
    rfl

theorem parseChars_append (h : (parseChars naming xs).isOk = true) : ∃ scheme rest blanks,
    (xs.getLast?.any isOuterBlank = false → blanks = []) ∧
    splitScheme (cleaned xs) = some (scheme, rest) ∧
      parseChars naming xs = parseRest naming scheme rest ∧
    ∀ ys, parseChars naming (xs ++ '/' :: ys) = parseRest naming scheme (rest ++ blanks ++
      '/' :: (trimEnd isOuterBlank ys).filter fun c => !isBreak c) := by
  obtain ⟨scheme, rest, hsplit⟩ := splitScheme_of_isOk h
  obtain ⟨-, -, -, hsplits⟩ := splitScheme_spec hsplit
  obtain ⟨blanks, hnone, happend⟩ := cleaned_append xs
  refine ⟨scheme, rest, blanks, hnone, hsplit, parseChars_of_splitScheme hsplit, fun ys => ?_⟩
  have hys := hsplits (blanks ++ '/' :: (trimEnd isOuterBlank ys).filter fun c => !isBreak c)
  rw [← List.append_assoc, ← List.append_assoc, ← happend] at hys
  exact parseChars_of_splitScheme hys

/-- Either every path can be put behind a URL or none. -/
theorem isOk_append (h : (parseChars naming xs).isOk = true) (hy : Tail ys) :
    (parseChars naming (xs ++ '/' :: ys)).isOk = (parseChars naming (xs ++ ['/'])).isOk := by
  obtain ⟨scheme, rest, blanks, -, -, hrest, happend⟩ := parseChars_append h
  rw [hrest] at h
  rw [happend, happend]
  refine parseRest_tail (fun hk => ?_) hy.inner
  have hne := dropSlashes_ne_nil h hk
  rw [dropSlashes_append hne]
  exact List.append_ne_nil_of_left_ne_nil hne _

theorem isOk_slash (h : (parseChars naming xs).isOk = true)
    (hlast : xs.getLast?.any (fun c => isOuterBlank c || c == '@') = false) :
    (parseChars naming (xs ++ ['/'])).isOk = true := by
  rw [Option.any_eq_false] at hlast
  have hblank : xs.getLast?.any isOuterBlank = false :=
    (Option.any_eq_false _ _).2 fun c hc => (Bool.or_eq_false_iff.1 (hlast c hc)).1
  obtain ⟨scheme, rest, blanks, hnone, hsplit, hrest, happend⟩ := parseChars_append h
  rw [hrest] at h
  rw [happend, hnone hblank, List.append_nil]
  refine parseRest_slash h fun hat => ?_
  obtain ⟨name, hcleaned, -⟩ := splitScheme_spec hsplit
  obtain ⟨front, rfl⟩ := List.getLast?_eq_some_iff.1 hat
  have hend : xs.getLast? = some '@' := by
    rw [← getLast?_cleaned hblank, hcleaned, ← List.cons_append, ← List.append_assoc,
      List.getLast?_concat]
  simpa using hlast '@' hend

theorem parseChars_swallow {u : Url} (h : parseChars naming xs = .ok u)
    (hmark : ∃ c ∈ xs, endsPath c = true) (ys : List Char) :
    ∃ v, parseChars naming (xs ++ '/' :: ys) = .ok v ∧ SamePlace u v := by
  obtain ⟨scheme, rest, blanks, -, hsplit, hrest, happend⟩ := parseChars_append (by rw [h]; rfl)
  rw [hrest] at h
  rw [happend, List.append_assoc]
  refine parseRest_swallow h ?_ _
  obtain ⟨c, hc, hmark⟩ := hmark
  obtain ⟨name, hcleaned, hname, -⟩ := splitScheme_spec hsplit
  have hcases : c = '?' ∨ c = '#' := by simpa [endsPath] using hmark
  have hin : c ∈ name ++ ':' :: rest := by
    rw [← hcleaned]
    exact mem_cleaned hc (by obtain rfl | rfl := hcases <;> decide)
  have hscheme : c ∉ name := fun hmem => by
    have hchar := hname c hmem
    obtain rfl | rfl := hcases <;> cases hchar
  have hcolon : c ≠ ':' := by obtain rfl | rfl := hcases <;> decide
  exact ⟨c, (List.mem_cons.1 ((List.mem_append.1 hin).resolve_left hscheme)).resolve_left hcolon,
    hmark⟩

def Accepted (naming : Naming) (text : String) : Prop := (parse naming text).isOk = true

theorem accepted_iff {text : String} : Accepted naming text ↔ ∃ u, parse naming text = .ok u := by
  unfold Accepted
  cases parse naming text with
  | error e => exact ⟨nofun, nofun⟩
  | ok u => exact ⟨fun _ => ⟨u, rfl⟩, fun _ => rfl⟩

end ConsoleSession.Url

namespace ConsoleSession.Config

open Text (trimEnd trimBlank trimEnd_spec trimEnd_eq_self getLast?_trimEnd)

variable {naming : Url.Naming} {base raw url : String} {c : Config} {env : Environment}

theorem readUrl_eq_ok : readUrl naming raw = .ok base ↔
    base.toList = trimEnd (· == '/') (trimBlank raw.toList) ∧ Url.Accepted naming base := by
  have hkept : (Text.stripEnd '/' (Text.trimmed raw)).toList =
      trimEnd (· == '/') (trimBlank raw.toList) := by
    rw [Text.stripEnd, Text.trimmed, String.toList_ofList, String.toList_ofList]
  rw [← hkept, String.toList_inj]
  unfold readUrl
  generalize Text.stripEnd '/' (Text.trimmed raw) = kept
  dsimp only
  constructor
  · intro h
    split at h
    next u hparse =>
      cases h
      exact ⟨rfl, Url.accepted_iff.2 ⟨u, hparse⟩⟩
    next => cases h
  · rintro ⟨rfl, hok⟩
    obtain ⟨u, hparse⟩ := Url.accepted_iff.1 hok
    rw [hparse]

theorem getLast?_of_readUrl (h : readUrl naming raw = .ok base) :
    base.toList.getLast?.any (· == '/') = false := by
  rw [(readUrl_eq_ok.1 h).1]
  exact getLast?_trimEnd _ _

theorem dropWhile_of_readUrl (h : readUrl naming raw = .ok base) :
    base.toList.dropWhile Text.isBlank = base.toList := by
  obtain ⟨slashes, hslashes, -⟩ := trimEnd_spec (· == '/') (trimBlank raw.toList)
  obtain ⟨blanks, hblanks, -⟩ := trimEnd_spec Text.isBlank (raw.toList.dropWhile Text.isBlank)
  rw [← (readUrl_eq_ok.1 h).1] at hslashes
  rw [← trimBlank, hslashes] at hblanks
  cases hbase : base.toList with
  | nil => rfl
  | cons d ds =>
    have hnot := List.head?_dropWhile_not Text.isBlank raw.toList
    rw [hblanks, hbase] at hnot
    exact List.dropWhile_cons_of_neg (by simpa using hnot)

theorem trimBlank_of_strip {xs : List Char} (h : xs = trimEnd (· == '/') (trimBlank xs)) :
    trimBlank xs = xs := by
  obtain ⟨slashes, hslashes, -⟩ := trimEnd_spec (· == '/') (trimBlank xs)
  obtain ⟨blanks, hblanks, -⟩ := trimEnd_spec Text.isBlank (xs.dropWhile Text.isBlank)
  rw [← h] at hslashes
  rw [← trimBlank] at hblanks
  -- Each step can only take characters off, and all of them are there at the end.
  have hshort : (xs.dropWhile Text.isBlank).length ≤ xs.length := List.length_dropWhile_le ..
  rw [hblanks, hslashes, List.length_append, List.length_append] at hshort
  obtain rfl : slashes = [] := List.eq_nil_of_length_eq_zero (by omega)
  rw [hslashes, List.append_nil]

theorem readUrl_fixed_iff (h : readUrl naming raw = .ok base) :
    readUrl naming base = .ok base ↔ base.toList.getLast?.any Text.isBlank = false := by
  have hdrop := dropWhile_of_readUrl h
  rw [readUrl_eq_ok]
  constructor
  · intro hfixed
    have htrim := getLast?_trimEnd Text.isBlank (base.toList.dropWhile Text.isBlank)
    rwa [← trimBlank, trimBlank_of_strip hfixed.1] at htrim
  · intro hlast
    refine ⟨?_, (readUrl_eq_ok.1 h).2⟩
    rw [trimBlank, hdrop, trimEnd_eq_self hlast, trimEnd_eq_self (getLast?_of_readUrl h)]

theorem exists_of_bind_ok {α β ε : Type} {x : Except ε α} {f : α → Except ε β} {b : β}
    (h : x >>= f = .ok b) : ∃ a, x = .ok a ∧ f a = .ok b := by
  cases x with
  | error e => cases h
  | ok a => exact ⟨a, rfl, h⟩

theorem exists_readUrl (h : readEnvironment naming env = .ok c) :
    ∃ raw, readUrl naming raw = .ok c.apiUrl := by
  obtain ⟨apiUrl, hread, h⟩ := exists_of_bind_ok h
  obtain ⟨loginPath, -, h⟩ := exists_of_bind_ok h
  obtain ⟨redirectTtl, -, h⟩ := exists_of_bind_ok h
  obtain ⟨requestTimeout, -, h⟩ := exists_of_bind_ok h
  obtain ⟨connectTimeout, -, h⟩ := exists_of_bind_ok h
  cases h
  exact ⟨_, hread⟩

/-- The URLs that are built on the address of the backend. -/
inductive Built (base : String) : String → Prop
  | refresh : Built base (Endpoint.refresh base)
  | logout : Built base (Endpoint.logout base)
  | login (provider : String) : Built base (Endpoint.login base provider)
  | resource (path : String) : Built base (Endpoint.resource base path)

theorem endpoint_toList (h : base.toList.getLast?.any (· == '/') = false) (path : String) :
    (endpoint base path).toList = base.toList ++ '/' :: path.toList.dropWhile (· == '/') := by
  rw [endpoint, String.toList_append, String.toList_append, Text.stripEnd, Text.stripStart,
    List.append_assoc]
  simp only [String.toList_ofList, trimEnd_eq_self h]
  rfl

theorem Built.toList (h : Built base url) (hbase : base.toList.getLast?.any (· == '/') = false) :
    ∃ path, Url.Tail path ∧ url.toList = base.toList ++ '/' :: path := by
  cases h with
  | refresh => exact ⟨_, .inr ⟨"auth/refresh".toList, rfl⟩, endpoint_toList hbase _⟩
  | logout => exact ⟨_, .inr ⟨"auth/logout".toList, rfl⟩, endpoint_toList hbase _⟩
  | login provider =>
    refine ⟨_, .inr ⟨"auth/".toList ++ (Percent.component provider).toList ++ "/login".toList, ?_⟩,
      endpoint_toList hbase _⟩
    rw [String.toList_append, String.toList_append]
    rfl
  | resource path =>
    refine ⟨_, .inr ⟨(Text.stripStart '/' path).toList, ?_⟩, endpoint_toList hbase _⟩
    rw [String.toList_append]
    rfl

/-- Which addresses can be built on. Read again, an address is the same unless a blank is at its
end. The built URLs are accepted all or none, and all of them if neither a blank nor the sign of a
userinfo is at the end. Behind a query or a fragment no path is looked for. -/
theorem built_on_base (h : readEnvironment naming env = .ok c) :
    (readUrl naming c.apiUrl = .ok c.apiUrl ↔ c.apiUrl.toList.getLast?.any Text.isBlank = false) ∧
    (∀ url, Built c.apiUrl url →
      (Url.Accepted naming url ↔ Url.Accepted naming (endpoint c.apiUrl ""))) ∧
    (c.apiUrl.toList.getLast?.any (fun ch => Url.isOuterBlank ch || ch == '@') = false →
      ∀ url, Built c.apiUrl url → Url.Accepted naming url) ∧
    ((∃ ch ∈ c.apiUrl.toList, Url.endsPath ch = true) → ∀ url, Built c.apiUrl url →
      ∃ u v, Url.parse naming c.apiUrl = .ok u ∧ Url.parse naming url = .ok v ∧ u.SamePlace v) := by
  obtain ⟨raw, hread⟩ := exists_readUrl h
  have hok := (readUrl_eq_ok.1 hread).2
  have hslash := getLast?_of_readUrl hread
  have hempty : (endpoint c.apiUrl "").toList = c.apiUrl.toList ++ ['/'] :=
    endpoint_toList hslash ""
  have hbuilt (url : String) (hu : Built c.apiUrl url) :
      Url.Accepted naming url ↔ Url.Accepted naming (endpoint c.apiUrl "") := by
    obtain ⟨path, htail, hurl⟩ := hu.toList hslash
    rw [Url.Accepted, Url.parse, hurl, Url.isOk_append hok htail, ← hempty]
    rfl
  refine ⟨readUrl_fixed_iff hread, hbuilt, fun hlast url hu => ?_, fun hmark url hu => ?_⟩
  · rw [hbuilt url hu, Url.Accepted, Url.parse, hempty]
    exact Url.isOk_slash hok hlast
  · obtain ⟨path, -, hurl⟩ := hu.toList hslash
    obtain ⟨u, hparse⟩ := Url.accepted_iff.1 hok
    obtain ⟨v, hv, hplace⟩ := Url.parseChars_swallow hparse hmark path
    exact ⟨u, v, hparse, by rw [Url.parse, hurl, hv], hplace⟩

def servedAt (address : String) : Environment := fun name =>
  if name = Variable.apiUrl.name then some (address.toList.flatMap String.utf8EncodeChar)
  else none

/-- A blank in front of the slash is kept, and nothing can be built on what is kept. -/
theorem blank_kept_at_end :
    ∃ c, ofEnvironment (servedAt "http://a /") = .ok c ∧ c.apiUrl = "http://a " ∧
      readUrl .standard c.apiUrl ≠ .ok c.apiUrl ∧
      ∀ url, Built c.apiUrl url → ¬ Url.Accepted .standard url := by
  have hread : ofEnvironment (servedAt "http://a /") = .ok { apiUrl := "http://a " } := by
    have hsome : (ofEnvironment (servedAt "http://a /")).toOption =
        some { apiUrl := "http://a " } := by decide +kernel
    cases hrun : ofEnvironment (servedAt "http://a /") with
    | error e =>
      rw [hrun] at hsome
      cases hsome
    | ok c =>
      rw [hrun] at hsome
      exact congrArg Except.ok (Option.some.inj hsome)
  obtain ⟨hfixed, hbuilt, -, -⟩ := built_on_base hread
  refine ⟨_, hread, rfl, ?_, fun url hu => ?_⟩
  · rw [Ne, hfixed]
    decide
  · rw [hbuilt url hu, Url.Accepted]
    decide +kernel

end ConsoleSession.Config
