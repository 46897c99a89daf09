import ConsoleSession.Proofs.Spans
import ConsoleSession.Url.Parser

/-!
# URLs with a text appended

Reading a URL goes from left to right, and only the blanks at its end are looked for from there. So
what is appended to a URL behind a slash changes nothing in front of the slash, but blanks that were
at the end of the URL are not at the end any more. `parseRest_tail` says that whether the URL can be
read then does not depend on what stands behind the slash, `parseRest_slash` when it can be read, and
`parseRest_swallow` that a query or a fragment takes in all that is appended.
-/

namespace ConsoleSession.Url

open Text (span_append span_spec span_append_of_mem takeWhile_append_stop mem_dropWhile)

variable {naming : Naming} {scheme text rest cs xs ys : List Char} {k : Kind}

theorem isOk_map {α β : Type} (f : α → β) (x : Except ParseError α) :
    (x.map f).isOk = x.isOk := by
  cases x <;> rfl

theorem slash_endsAuthority (k : Kind) : k.endsAuthority '/' = true := rfl

theorem not_isDigit_of_endsAuthority {c : Char} (h : k.endsAuthority c = true) :
    isDigit c = false ∧ (c = '/' ∨ c = '\\' ∨ endsPath c = true) := by
  have hcases : c = '/' ∨ c = '\\' ∨ c = '?' ∨ c = '#' := by
    simp only [Kind.endsAuthority, Kind.isSlash, endsPath, Bool.or_eq_true, Bool.and_eq_true,
      beq_iff_eq] at h
    tauto
  obtain rfl | rfl | rfl | rfl := hcases <;> decide

theorem splitPort_append (hr : ∀ c, rest.head? = some c → k.endsAuthority c = true) :
    splitPort scheme (cs ++ rest) =
      (splitPort scheme cs).map fun (port, left) => (port, left ++ rest) := by
  obtain ⟨digits, left, rfl, hdigits, hleft, hspan⟩ := span_spec isDigit cs
  have hstop : ∀ c, (left ++ rest).head? = some c → isDigit c = false := by
    intro c hc
    cases left with
    | nil => exact (not_isDigit_of_endsAuthority (hr c hc)).1
    | cons d ds => exact hleft c hc
  unfold splitPort
  rw [List.append_assoc, span_append hdigits hstop, hspan]
  dsimp only
  by_cases hlarge : 65535 < portNumber digits
  · rw [if_pos hlarge, if_pos hlarge]
    rfl
  rw [if_neg hlarge, if_neg hlarge]
  cases left with
  | cons d ds =>
    dsimp only [List.cons_append]
    split <;> rfl
  | nil =>
    cases rest with
    | nil => rfl
    | cons c cs =>
      have hend := (not_isDigit_of_endsAuthority (hr c rfl)).2
      simp only [List.nil_append]
      rw [if_pos hend]
      rfl

theorem eq_of_splitUserinfo {info : List Char} (h : splitUserinfo text = (some info, []))
    (hu : info.takeWhile (· != ':') = []) (ht : text.head? = some '@') : text = ['@'] := by
  obtain ⟨host, left, hrev, -, hleft, hspan⟩ := span_spec (· != '@') text.reverse
  have htext : text = left.reverse ++ host.reverse := by
    rw [← List.reverse_append, ← hrev, List.reverse_reverse]
  unfold splitUserinfo at h
  rw [hspan] at h
  cases left with
  | nil => cases h
  | cons d ds =>
    obtain rfl : d = '@' := by simpa using hleft d rfl
    obtain ⟨rfl, hhost⟩ : ds.reverse = info ∧ host.reverse = [] := by simpa using h
    rw [htext, hhost, List.append_nil, List.reverse_cons]
    rw [htext, hhost, List.append_nil, List.reverse_cons] at ht
    cases hds : ds.reverse with
    | nil => rfl
    | cons c cs =>
      rw [hds] at ht hu
      obtain rfl : c = '@' := by simpa using ht
      simp at hu

def portOf (scheme tail rest : List Char) : Except ParseError (Option Nat × List Char) :=
  match tail with
  | ':' :: cs => splitPort scheme (cs ++ rest)
  | _ => .ok (none, rest)

theorem portOf_of_ne {tail : List Char} (h : ∀ cs, tail = ':' :: cs → False) :
    portOf scheme tail rest = .ok (none, rest) := by
  unfold portOf
  split
  next cs => exact (h cs rfl).elim
  next => rfl

theorem portOf_append (tail : List Char) (hr : ∀ c, rest.head? = some c → k.endsAuthority c = true) :
    portOf scheme tail rest =
      (portOf scheme tail []).map fun (port, left) => (port, left ++ rest) := by
  unfold portOf
  split
  next cs => rw [splitPort_append hr, List.append_nil]
  next => rfl

def credentials (info : List Char) : List Char × List Char :=
  (info.takeWhile (· != ':'), (info.dropWhile (· != ':')).drop 1)

def hostOf (naming : Naming) (k : Kind) (text : List Char) : Except ParseError Host :=
  if k = .other then Host.ofOpaque text else Host.ofSpecial naming text

theorem bind_hostOf {α : Type} (k : Kind) (text : List Char) (f : Host → Except ParseError α) :
    (if k = .other then Host.ofOpaque text >>= f else Host.ofSpecial naming text >>= f) =
      (hostOf naming k text).bind f := by
  unfold hostOf
  split <;> rfl

def readAuthority (naming : Naming) (scheme : List Char) (k : Kind) (info : List Char × List Char)
    (host tail rest : List Char) : Except ParseError (Authority × List Char) :=
  if host.isEmpty = true ∧ (k ≠ .other ∨ tail.head? = some ':') then .error .emptyHost
  else
    (hostOf naming k host).bind fun h => (portOf scheme tail rest).bind fun (port, left) =>
      if host.isEmpty = true ∧ ¬ (info.1.isEmpty = true ∧ info.2.isEmpty = true) then .error .emptyHost
      else .ok (⟨escapeWith inUserinfo info.1, escapeWith inUserinfo info.2, h, port⟩, left)

def Vacant (text rest : List Char) : Prop :=
  (splitUserinfo text).1.map credentials = some ([], []) ∧ text.head? = some '@' ∧
    (splitUserinfo text).2.isEmpty = true ∧ ¬ rest.isEmpty = true

theorem splitAuthority_of_vacant (hs : xs.span (fun c => !k.endsAuthority c) = (text, rest))
    (h : Vacant text rest) : splitAuthority naming scheme k xs = .error .emptyHost := by
  unfold splitAuthority
  rw [hs]
  exact if_pos h

theorem splitAuthority_of_not_vacant (hs : xs.span (fun c => !k.endsAuthority c) = (text, rest))
    (h : ¬ Vacant text rest) : splitAuthority naming scheme k xs =
      readAuthority naming scheme k (((splitUserinfo text).1.map credentials).getD ([], []))
        (spanHost false (splitUserinfo text).2).1 (spanHost false (splitUserinfo text).2).2 rest := by
  rcases hu : splitUserinfo text with ⟨info, hostPort⟩
  rcases hh : spanHost false hostPort with ⟨host, tail⟩
  have hvacant : ¬ (info.map credentials = some ([], []) ∧ text.head? = some '@' ∧
      hostPort.isEmpty = true ∧ ¬ rest.isEmpty = true) := by
    unfold Vacant at h
    rwa [hu] at h
  unfold splitAuthority
  rw [hs]
  dsimp only
  rw [hu]
  dsimp only
  rw [hh, ← show credentials = fun cs : List Char => (cs.takeWhile (· != ':'),
    (cs.dropWhile (· != ':')).drop 1) from rfl, if_neg hvacant]
  generalize (info.map credentials).getD ([], []) = creds
  obtain ⟨name, word⟩ := creds
  dsimp only
  unfold readAuthority
  by_cases hempty : host.isEmpty = true ∧ (k ≠ .other ∨ tail.head? = some ':')
  · rw [if_pos hempty, if_pos hempty]
    rfl
  rw [if_neg hempty, if_neg hempty]
  rw [bind_hostOf]
  refine congrArg (Except.bind _) (funext fun h => ?_)
  -- Credentials without a host are turned down last, when the port has been read.
  by_cases hlast : host.isEmpty = true ∧ ¬ (name.isEmpty = true ∧ word.isEmpty = true)
  · simp only [if_pos hlast]
    split
    next => rfl
    next hcolon =>
      rw [portOf_of_ne hcolon]
      rfl
  · simp only [if_neg hlast]
    split
    next => rfl
    next hcolon =>
      rw [portOf_of_ne hcolon]
      rfl

theorem readAuthority_append {info : List Char × List Char} {host tail : List Char}
    (hr : ∀ c, rest.head? = some c → k.endsAuthority c = true) :
    readAuthority naming scheme k info host tail rest =
      (readAuthority naming scheme k info host tail []).map fun (a, left) => (a, left ++ rest) := by
  unfold readAuthority
  rw [portOf_append tail hr]
  split
  next => rfl
  next =>
    cases hostOf naming k host with
    | error e => rfl
    | ok h =>
      cases portOf scheme tail [] with
      | error e => rfl
      | ok p =>
        dsimp only [Except.bind, Except.map]
        split <;> rfl

theorem vacant_iff : Vacant text rest ↔ text = ['@'] ∧ rest ≠ [] := by
  constructor
  · rintro ⟨hinfo, hhead, hempty, hrest⟩
    obtain ⟨info, hsome, hi⟩ := Option.map_eq_some_iff.1 hinfo
    exact ⟨eq_of_splitUserinfo (Prod.ext hsome (List.isEmpty_iff.1 hempty))
      (congrArg Prod.fst hi) hhead, mt List.isEmpty_iff.2 hrest⟩
  · rintro ⟨rfl, hrest⟩
    exact ⟨rfl, rfl, rfl, mt List.isEmpty_iff.1 hrest⟩

theorem splitAuthority_append (htext : ∀ c ∈ text, k.endsAuthority c = false)
    (hr : ∀ c, rest.head? = some c → k.endsAuthority c = true) (hv : ¬ Vacant text rest) :
    splitAuthority naming scheme k (text ++ rest) =
      (splitAuthority naming scheme k text).map fun (a, left) => (a, left ++ rest) := by
  have hpass : ∀ c ∈ text, (!k.endsAuthority c) = true := fun c hc => by rw [htext c hc]; rfl
  have hspan := span_append hpass fun c hc => by rw [hr c hc]; rfl
  have hnil : (text ++ []).span (fun c => !k.endsAuthority c) = (text, []) :=
    span_append hpass nofun
  rw [List.append_nil] at hnil
  rw [splitAuthority_of_not_vacant hspan hv,
    splitAuthority_of_not_vacant hnil fun h => h.2.2.2 rfl, readAuthority_append hr]

/-- Whether an authority can be read that a slash comes after does not depend on what follows. -/
theorem splitAuthority_isOk (scheme : List Char) (k : Kind) (xs ys : List Char) :
    (splitAuthority naming scheme k (xs ++ '/' :: ys)).isOk =
      ((xs.takeWhile fun c => !k.endsAuthority c) != ['@'] &&
        (splitAuthority naming scheme k (xs.takeWhile fun c => !k.endsAuthority c)).isOk) := by
  obtain ⟨text, rest, rfl, htext, hrest, hspan⟩ := span_spec (fun c => !k.endsAuthority c) xs
  rw [List.span_eq_takeWhile_dropWhile, Prod.mk.injEq] at hspan
  rw [hspan.1, List.append_assoc]
  have hend : ∀ c, (rest ++ '/' :: ys).head? = some c → k.endsAuthority c = true := by
    intro c hc
    cases rest with
    | nil =>
      cases hc
      exact slash_endsAuthority k
    | cons d ds => simpa using hrest c hc
  have hne : rest ++ '/' :: ys ≠ [] := by simp
  by_cases hat : text = ['@']
  · have hspan := span_append htext fun c hc => by rw [hend c hc]; rfl
    rw [splitAuthority_of_vacant hspan (vacant_iff.2 ⟨hat, hne⟩), hat]
    rfl
  · rw [splitAuthority_append (fun c hc => by simpa using htext c hc) hend
      (fun hv => hat (vacant_iff.1 hv).1), isOk_map, bne_iff_ne.2 hat, Bool.true_and]

def parseRest (naming : Naming) (scheme rest : List Char) : Except ParseError Url :=
  match Kind.ofScheme scheme with
  | .special => parseSpecial naming scheme rest
  | .file => parseFile naming scheme rest
  | .other => parseOther naming scheme rest

def specialUrl (scheme : List Char) (a : Authority) (left : List Char) : Url :=
  finish scheme .special (some a)
    (.segments (segments .special (Kind.special.dropSlash (left.span fun c => !endsPath c).1)))
    (left.span fun c => !endsPath c).2

theorem parseSpecial_eq (scheme rest : List Char) : parseSpecial naming scheme rest =
    (splitAuthority naming scheme .special (rest.dropWhile (Kind.special.isSlash ·))).map
      fun (a, left) => specialUrl scheme a left := by
  unfold parseSpecial
  cases splitAuthority naming scheme .special (rest.dropWhile (Kind.special.isSlash ·)) <;> rfl

def otherUrl (scheme : List Char) (a : Authority) (left : List Char) : Url :=
  finish scheme .other (some a)
    (.segments (match (left.span fun c => !endsPath c).1 with
      | [] => []
      | '/' :: cs => segments .other cs
      | cs => segments .other cs))
    (left.span fun c => !endsPath c).2

theorem parseOther_eq (scheme rest : List Char) : parseOther naming scheme ('/' :: '/' :: rest) =
    (splitAuthority naming scheme .other rest).map fun (a, left) => otherUrl scheme a left := by
  rw [parseOther]
  cases splitAuthority naming scheme .other rest <;> rfl

def opensHost (k : Kind) : List Char → Bool
  | c :: d :: _ => k.isSlash c && k.isSlash d
  | _ => false

theorem exists_of_opensHost (h : opensHost k rest = true) : ∃ c d more, rest = c :: d :: more := by
  match rest, h with
  | c :: d :: more, _ => exact ⟨c, d, more, rfl⟩

theorem parseOther_isOk (scheme rest : List Char) : (parseOther naming scheme rest).isOk =
    (!opensHost .other rest || (splitAuthority naming scheme .other (rest.drop 2)).isOk) := by
  have hslash {c : Char} : Kind.other.isSlash c = true ↔ c = '/' := by simp [Kind.isSlash]
  by_cases hopen : opensHost .other rest = true
  · obtain ⟨c, d, cs, rfl⟩ := exists_of_opensHost hopen
    obtain ⟨hc, hd⟩ := Bool.and_eq_true_iff.1 hopen
    obtain rfl := hslash.1 hc
    obtain rfl := hslash.1 hd
    rw [parseOther_eq, isOk_map]
    rfl
  · rw [Bool.eq_false_iff.2 hopen]
    unfold parseOther
    split
    next => exact absurd rfl hopen
    next => rfl
    next => rfl

def isFileHost (naming : Naming) (name : List Char) : Bool :=
  name.isEmpty || isDrive name || (Host.ofSpecial naming name).isOk

theorem parseFile_local (h : opensHost .file rest = false) : parseFile naming scheme rest =
    .ok (parseFile.build scheme (.domain []) Kind.file.dropSlash rest) := by
  unfold parseFile
  split
  next c d more => exact if_neg (mt Bool.and_eq_true_iff.2 (Bool.eq_false_iff.1 h))
  next => rfl

theorem parseFile_hosted {c d : Char} {more : List Char}
    (h : opensHost .file (c :: d :: more) = true) :
    parseFile naming scheme (c :: d :: more) =
      (let (name, rest) := more.span fun c => !Kind.file.endsAuthority c
      if name.isEmpty = true ∨ isDrive name = true then
        .ok (parseFile.build scheme (.domain []) id more)
      else (Host.ofSpecial naming name).map fun host =>
        if host = .domain "localhost".toList then parseFile.build scheme (.domain []) id rest
        else parseFile.build scheme host Kind.file.dropSlash rest) := by
  rw [parseFile, if_pos (Bool.and_eq_true_iff.1 h)]
  dsimp only
  split
  next => rfl
  next =>
    cases Host.ofSpecial naming (more.span fun c => !Kind.file.endsAuthority c).1 with
    | error e => rfl
    | ok host =>
      dsimp only [Except.map]
      rw [apply_ite Except.ok]
      rfl

theorem parseFile_isOk (scheme rest : List Char) : (parseFile naming scheme rest).isOk =
    (!opensHost .file rest ||
      isFileHost naming ((rest.drop 2).takeWhile fun c => !Kind.file.endsAuthority c)) := by
  by_cases hopen : opensHost .file rest = true
  · obtain ⟨c, d, more, rfl⟩ := exists_of_opensHost hopen
    rw [parseFile_hosted hopen, hopen, List.span_eq_takeWhile_dropWhile, isFileHost]
    dsimp only [List.drop]
    generalize more.takeWhile (fun c => !Kind.file.endsAuthority c) = name
    cases name.isEmpty <;> cases isDrive name <;> cases Host.ofSpecial naming name <;> rfl
  · rw [parseFile_local (Bool.eq_false_iff.2 hopen), Bool.eq_false_iff.2 hopen]
    rfl

theorem parseRest_isOk (scheme rest : List Char) : (parseRest naming scheme rest).isOk =
    match Kind.ofScheme scheme with
    | .special =>
      (splitAuthority naming scheme .special (rest.dropWhile (Kind.special.isSlash ·))).isOk
    | .file => !opensHost .file rest ||
        isFileHost naming ((rest.drop 2).takeWhile fun c => !Kind.file.endsAuthority c)
    | .other => !opensHost .other rest || (splitAuthority naming scheme .other (rest.drop 2)).isOk := by
  unfold parseRest
  cases Kind.ofScheme scheme with
  | special =>
    dsimp only
    rw [parseSpecial_eq, isOk_map]
  | file => exact parseFile_isOk scheme rest
  | other => exact parseOther_isOk scheme rest

/-- What is appended behind a slash: nothing, or the path of a resource. -/
def Tail (ys : List Char) : Prop := ys = [] ∨ ∃ zs, ys = 'a' :: 'p' :: 'i' :: '/' :: zs

theorem splitAuthority_of_tail (scheme : List Char) (h : Tail ys) :
    (splitAuthority naming scheme .other ys).isOk = true := by
  obtain rfl | ⟨zs, rfl⟩ := h
  · rfl
  · exact (splitAuthority_isOk scheme .other ['a', 'p', 'i'] zs).trans rfl

theorem isFileHost_of_tail (h : Tail ys) :
    isFileHost naming (ys.takeWhile fun c => !Kind.file.endsAuthority c) = true := by
  obtain rfl | ⟨zs, rfl⟩ := h
  · rfl
  · have hhost : Host.ofSpecial naming ['a', 'p', 'i'] = .ok (.domain ['a', 'p', 'i']) :=
      (Host.ofSpecial_of_isPlainName (by decide) rfl (by decide)).trans rfl
    show (false || false || (Host.ofSpecial naming ['a', 'p', 'i']).isOk) = true
    rw [hhost]
    rfl

theorem opensHost_slash (k : Kind) (h : Tail ys) : opensHost k ('/' :: ys) = false := by
  obtain rfl | ⟨zs, rfl⟩ := h
  · rfl
  · cases k <;> rfl

theorem dropSlashes_append (h : xs.dropWhile (Kind.special.isSlash ·) ≠ []) (zs : List Char) :
    (xs ++ zs).dropWhile (Kind.special.isSlash ·) =
      xs.dropWhile (Kind.special.isSlash ·) ++ zs := by
  rw [List.dropWhile_append, if_neg (by simpa using h)]

theorem dropSlashes_ne_nil (h : (parseRest naming scheme xs).isOk = true) :
    Kind.ofScheme scheme = .special → xs.dropWhile (Kind.special.isSlash ·) ≠ [] := by
  intro hk hnil
  rw [parseRest_isOk, hk] at h
  dsimp only at h
  rw [hnil] at h
  cases h

/-- Whether a URL can be read that something is appended to behind a slash does not depend on what
is appended. -/
theorem parseRest_tail (hs : Kind.ofScheme scheme = .special →
    xs.dropWhile (Kind.special.isSlash ·) ≠ []) (hy : Tail ys) :
    (parseRest naming scheme (xs ++ '/' :: ys)).isOk =
      (parseRest naming scheme (xs ++ ['/'])).isOk := by
  rw [parseRest_isOk, parseRest_isOk]
  generalize Kind.ofScheme scheme = k at hs
  cases k with
  | special => simp only [dropSlashes_append (hs rfl), splitAuthority_isOk]
  | file =>
    dsimp only
    match xs with
    | [] =>
      rw [List.nil_append, opensHost_slash _ hy]
      rfl
    | [c] =>
      -- The appended slash may be the second of the two that open a host.
      show (!opensHost .file (c :: '/' :: ys) || isFileHost naming (ys.takeWhile _)) = _
      rw [isFileHost_of_tail hy, Bool.or_true]
      exact (Bool.or_true _).symm
    | c :: d :: more =>
      show (!opensHost .file (c :: d :: more) || isFileHost naming ((more ++ '/' :: ys).takeWhile _)) =
        (!opensHost .file (c :: d :: more) || isFileHost naming ((more ++ ['/']).takeWhile _))
      rw [takeWhile_append_stop rfl, takeWhile_append_stop rfl]
  | other =>
    dsimp only
    match xs with
    | [] =>
      rw [List.nil_append, opensHost_slash _ hy]
      rfl
    | [c] =>
      show (!opensHost .other (c :: '/' :: ys) || (splitAuthority naming scheme .other ys).isOk) = _
      rw [splitAuthority_of_tail scheme hy, Bool.or_true]
      exact (Bool.or_true _).symm
    | c :: d :: more =>
      show (!opensHost .other (c :: d :: more) ||
          (splitAuthority naming scheme .other (more ++ '/' :: ys)).isOk) =
        (!opensHost .other (c :: d :: more) ||
          (splitAuthority naming scheme .other (more ++ ['/'])).isOk)
      rw [splitAuthority_isOk, splitAuthority_isOk]

theorem splitAuthority_slash (h : (splitAuthority naming scheme k xs).isOk = true)
    (hat : xs ≠ ['@']) :
    (splitAuthority naming scheme k (xs ++ ['/'])).isOk = true := by
  rw [splitAuthority_isOk]
  obtain ⟨text, rest, rfl, htext, hrest, hspan⟩ := span_spec (fun c => !k.endsAuthority c) xs
  have hcut := hspan
  rw [List.span_eq_takeWhile_dropWhile, Prod.mk.injEq] at hcut
  rw [hcut.1]
  by_cases hv : Vacant text rest
  · rw [splitAuthority_of_vacant hspan hv] at h
    cases h
  · rw [splitAuthority_append (fun c hc => by simpa using htext c hc)
      (fun c hc => by simpa using hrest c hc) hv, isOk_map] at h
    rw [h, Bool.and_true, bne_iff_ne]
    rintro rfl
    obtain rfl : rest = [] := by
      by_contra hne
      exact hv (vacant_iff.2 ⟨rfl, hne⟩)
    exact hat rfl

theorem ne_of_getLast? {front : List Char} {c : Char} (hxs : front ++ ys = xs)
    (h : xs.getLast? ≠ some c) : ys ≠ [c] := by
  rintro rfl
  exact h (hxs ▸ List.getLast?_concat)

theorem parseRest_slash (h : (parseRest naming scheme xs).isOk = true)
    (hat : xs.getLast? ≠ some '@') :
    (parseRest naming scheme (xs ++ ['/'])).isOk = true := by
  have hs := dropSlashes_ne_nil h
  rw [parseRest_isOk] at h ⊢
  generalize Kind.ofScheme scheme = k at h hs
  cases k with
  | special =>
    dsimp only at h ⊢
    rw [dropSlashes_append (hs rfl)]
    exact splitAuthority_slash h (ne_of_getLast? List.takeWhile_append_dropWhile hat)
  | file =>
    match xs with
    | [] => rfl
    | [c] => exact Bool.or_true _
    | c :: d :: more =>
      show (!opensHost .file (c :: d :: more) || isFileHost naming ((more ++ ['/']).takeWhile _)) = true
      rw [takeWhile_append_stop rfl]
      exact h
  | other =>
    match xs with
    | [] => rfl
    | [c] => exact Bool.or_true _
    | c :: d :: more =>
      rw [Bool.or_eq_true] at h ⊢
      have hmore : more ≠ ['@'] := ne_of_getLast? (show [c, d] ++ more = _ from rfl) hat
      exact h.imp_right fun h => splitAuthority_slash h hmore

def SamePlace (u v : Url) : Prop :=
  v.scheme = u.scheme ∧ v.authority = u.authority ∧ v.path = u.path

theorem span_endsPath_append (h : ∃ c ∈ xs, endsPath c = true) (ys : List Char) :
    (xs ++ ys).span (fun c => !endsPath c) =
      ((xs.span fun c => !endsPath c).1, (xs.span fun c => !endsPath c).2 ++ ys) :=
  span_append_of_mem (h.imp fun _ hc => ⟨hc.1, by rw [hc.2]; rfl⟩) ys

theorem not_isSlash_of_endsPath {c : Char} (k : Kind) (h : endsPath c = true) :
    k.isSlash c = false := by
  have hcases : c = '?' ∨ c = '#' := by simpa [endsPath] using h
  obtain rfl | rfl := hcases <;> cases k <;> rfl

theorem authority_before_mark (k : Kind) (hmark : ∃ c ∈ xs, endsPath c = true) :
    ∃ text rest, (∀ c ∈ text, k.endsAuthority c = false) ∧
      (∀ zs c, (rest ++ zs).head? = some c → k.endsAuthority c = true) ∧
      (∃ c ∈ rest, endsPath c = true) ∧
      ∀ zs, xs ++ zs = text ++ (rest ++ zs) ∧
        (xs ++ zs).span (fun c => !k.endsAuthority c) = (text, rest ++ zs) := by
  obtain ⟨c, hc, hmark⟩ := hmark
  obtain ⟨text, rest, rfl, htext, hrest, hspan⟩ := span_spec (fun c => !k.endsAuthority c) xs
  have hend : k.endsAuthority c = true := by rw [Kind.endsAuthority, hmark, Bool.or_true]
  have hin : c ∈ rest := (List.mem_append.1 hc).resolve_left fun hmem => by
    simpa [hend] using htext c hmem
  refine ⟨text, rest, fun c hc => by simpa using htext c hc, fun zs c hc => ?_, ⟨c, hin, hmark⟩,
    fun zs => ⟨List.append_assoc .., ?_⟩⟩
  · rw [List.head?_append, Option.or_of_isSome (List.isSome_head?.2 (List.ne_nil_of_mem hin))] at hc
    simpa using hrest c hc
  · rw [span_append_of_mem ⟨c, hc, by rw [hend]; rfl⟩, hspan]

theorem splitAuthority_swallow {a : Authority} {left : List Char}
    (h : splitAuthority naming scheme k xs = .ok (a, left)) (hmark : ∃ c ∈ xs, endsPath c = true) :
    (∃ c ∈ left, endsPath c = true) ∧
      ∀ ys, splitAuthority naming scheme k (xs ++ ys) = .ok (a, left ++ ys) := by
  obtain ⟨text, rest, htext, hrest, hmark, hspan⟩ := authority_before_mark k hmark
  obtain ⟨c, hin, hend⟩ := hmark
  have hnil := (hspan []).2
  rw [List.append_nil, List.append_nil] at hnil
  have hv : text ≠ ['@'] := by
    rintro rfl
    rw [splitAuthority_of_vacant hnil (vacant_iff.2 ⟨rfl, List.ne_nil_of_mem hin⟩)] at h
    cases h
  have hread (zs : List Char) : splitAuthority naming scheme k (xs ++ zs) =
      (splitAuthority naming scheme k text).map fun (a, left) => (a, left ++ (rest ++ zs)) := by
    rw [(hspan zs).1, splitAuthority_append htext (hrest zs) fun hvacant =>
      hv (vacant_iff.1 hvacant).1]
  have hxs := hread []
  rw [List.append_nil, h] at hxs
  cases htext : splitAuthority naming scheme k text with
  | error e =>
    rw [htext] at hxs
    cases hxs
  | ok read =>
    rw [htext] at hxs hread
    rw [List.append_nil] at hxs
    cases hxs
    exact ⟨⟨c, List.mem_append_right _ hin, hend⟩, fun ys => by
      rw [hread, List.append_assoc]
      rfl⟩

theorem mark_of_cons {d : Char} (hd : endsPath d = false) (h : ∃ c ∈ d :: xs, endsPath c = true) :
    ∃ c ∈ xs, endsPath c = true := by
  obtain ⟨c, hc, hmark⟩ := h
  refine ⟨c, (List.mem_cons.1 hc).resolve_left fun heq => ?_, hmark⟩
  rw [heq, hd] at hmark
  cases hmark

theorem parseSpecial_swallow {u : Url} (h : parseSpecial naming scheme xs = .ok u)
    (hmark : ∃ c ∈ xs, endsPath c = true) (ys : List Char) :
    ∃ v, parseSpecial naming scheme (xs ++ ys) = .ok v ∧ SamePlace u v := by
  obtain ⟨c, hc, hmark⟩ := hmark
  have hin : c ∈ xs.dropWhile (Kind.special.isSlash ·) :=
    mem_dropWhile hc (not_isSlash_of_endsPath .special hmark)
  rw [parseSpecial_eq] at h ⊢
  rw [dropSlashes_append (List.ne_nil_of_mem hin)]
  cases hread : splitAuthority naming scheme .special (xs.dropWhile (Kind.special.isSlash ·)) with
  | error e =>
    rw [hread] at h
    cases h
  | ok read =>
    obtain ⟨hleft, happend⟩ := splitAuthority_swallow hread ⟨c, hin, hmark⟩
    rw [hread] at h
    cases h
    refine ⟨_, congrArg (Except.map _) (happend ys), ?_⟩
    dsimp only [specialUrl]
    rw [span_endsPath_append hleft]
    exact ⟨rfl, rfl, rfl⟩

theorem parseOther_rooted {d : Char} (hd : d ≠ '/') (cs : List Char) :
    parseOther naming scheme ('/' :: d :: cs) = .ok (finish scheme .other none
      (.segments (segments .other ((d :: cs).span fun c => !endsPath c).1))
      ((d :: cs).span fun c => !endsPath c).2) := by
  unfold parseOther
  split
  next heq => exact absurd (List.cons.inj (List.cons.inj heq).2).1 hd
  next heq => cases heq; rfl
  next hnot => exact (hnot _ rfl).elim

theorem parseOther_whole {d : Char} (hd : d ≠ '/') (cs : List Char) :
    parseOther naming scheme (d :: cs) = .ok (finish scheme .other none
      (.whole (escapeWith (fun _ => false) ((d :: cs).span fun c => !endsPath c).1))
      ((d :: cs).span fun c => !endsPath c).2) := by
  unfold parseOther
  split
  next heq => exact absurd (List.cons.inj heq).1 hd
  next heq => exact absurd (List.cons.inj heq).1 hd
  next => rfl

theorem parseOther_swallow {u : Url} (h : parseOther naming scheme xs = .ok u)
    (hmark : ∃ c ∈ xs, endsPath c = true) (ys : List Char) :
    ∃ v, parseOther naming scheme (xs ++ ys) = .ok v ∧ SamePlace u v := by
  match xs, hmark with
  | c :: cs, hmark =>
    by_cases hc : c = '/'
    · subst hc
      match cs, mark_of_cons rfl hmark with
      | d :: cs, hmark =>
        by_cases hd : d = '/'
        · subst hd
          have hmark := mark_of_cons rfl hmark
          rw [parseOther_eq] at h
          rw [List.cons_append, List.cons_append, parseOther_eq]
          cases hread : splitAuthority naming scheme .other cs with
          | error e =>
            rw [hread] at h
            cases h
          | ok read =>
            obtain ⟨hleft, happend⟩ := splitAuthority_swallow hread hmark
            rw [hread] at h
            cases h
            refine ⟨_, congrArg (Except.map _) (happend ys), ?_⟩
            dsimp only [otherUrl]
            rw [span_endsPath_append hleft]
            exact ⟨rfl, rfl, rfl⟩
        · rw [parseOther_rooted hd] at h
          cases h
          refine ⟨_, parseOther_rooted hd (cs ++ ys), ?_⟩
          rw [← List.cons_append, span_endsPath_append hmark]
          exact ⟨rfl, rfl, rfl⟩
    · rw [parseOther_whole hc] at h
      cases h
      refine ⟨_, parseOther_whole hc (cs ++ ys), ?_⟩
      rw [← List.cons_append, span_endsPath_append hmark]
      exact ⟨rfl, rfl, rfl⟩

theorem build_swallow (host : Host) (start : List Char → List Char)
    (hmark : ∃ c ∈ xs, endsPath c = true) (ys : List Char) :
    SamePlace (parseFile.build scheme host start xs) (parseFile.build scheme host start (xs ++ ys)) := by
  unfold parseFile.build
  rw [span_endsPath_append hmark]
  exact ⟨rfl, rfl, rfl⟩

theorem opensHost_append (hmark : ∃ c ∈ xs, endsPath c = true) (ys : List Char) :
    opensHost k (xs ++ ys) = opensHost k xs := by
  match xs, hmark with
  | [c], hmark =>
    obtain ⟨_, hc, hend⟩ := hmark
    rw [List.mem_singleton.1 hc] at hend
    cases ys with
    | nil => rfl
    | cons d ds =>
      rw [List.singleton_append, opensHost, not_isSlash_of_endsPath k hend]
      rfl
  | c :: d :: more, _ => rfl

theorem parseFile_swallow {u : Url} (h : parseFile naming scheme xs = .ok u)
    (hmark : ∃ c ∈ xs, endsPath c = true) (ys : List Char) :
    ∃ v, parseFile naming scheme (xs ++ ys) = .ok v ∧ SamePlace u v := by
  by_cases hopen : opensHost .file xs = true
  · obtain ⟨c, d, more, rfl⟩ := exists_of_opensHost hopen
    obtain ⟨hc, hd⟩ := Bool.and_eq_true_iff.1 hopen
    have hslash {c : Char} (hc : Kind.file.isSlash c = true) : endsPath c = false :=
      Bool.eq_false_iff.2 fun hend => by simp [not_isSlash_of_endsPath _ hend] at hc
    have hmark := mark_of_cons (hslash hd) (mark_of_cons (hslash hc) hmark)
    obtain ⟨name, rest, -, -, hrest, hspan⟩ := authority_before_mark .file hmark
    have hnil := (hspan []).2
    rw [List.append_nil, List.append_nil] at hnil
    rw [parseFile_hosted hopen, hnil] at h
    have happend : opensHost .file (c :: d :: (more ++ ys)) = true := hopen
    rw [List.cons_append, List.cons_append, parseFile_hosted happend, (hspan ys).2]
    dsimp only at h ⊢
    by_cases hempty : name.isEmpty = true ∨ isDrive name = true
    · rw [if_pos hempty] at h
      rw [if_pos hempty]
      cases h
      exact ⟨_, rfl, build_swallow _ _ hmark ys⟩
    · rw [if_neg hempty] at h
      rw [if_neg hempty]
      cases hhost : Host.ofSpecial naming name with
      | error e =>
        rw [hhost] at h
        cases h
      | ok host =>
        rw [hhost] at h
        cases h
        refine ⟨_, rfl, ?_⟩
        dsimp only
        split
        · exact build_swallow _ _ hrest ys
        · exact build_swallow _ _ hrest ys
  · have hopen := Bool.eq_false_iff.2 hopen
    rw [parseFile_local hopen] at h
    cases h
    exact ⟨_, parseFile_local ((opensHost_append hmark ys).trans hopen), build_swallow _ _ hmark ys⟩

/-- A URL that has a query or a fragment takes in what is appended, and its path stays as it is. -/
theorem parseRest_swallow {u : Url} (h : parseRest naming scheme xs = .ok u)
    (hmark : ∃ c ∈ xs, endsPath c = true) (ys : List Char) :
    ∃ v, parseRest naming scheme (xs ++ ys) = .ok v ∧ SamePlace u v := by
  unfold parseRest at h ⊢
  cases hk : Kind.ofScheme scheme <;> rw [hk] at h
  · exact parseSpecial_swallow h hmark ys
  · exact parseFile_swallow h hmark ys
  · exact parseOther_swallow h hmark ys

end ConsoleSession.Url
