import ConsoleSession.Proofs.Escaping
import ConsoleSession.Proofs.Spans
import ConsoleSession.Session.Console

/-!
# How the URLs of the backend are put together

A base brings slashes at its end or none, and a path brings slashes in front of it or none; one
slash joins what is left of the two. A login URL has one segment for the provider. No mark of a URL
can come from the provider's name, so the segment can be found in the URL, and the name is read back
from it.
-/

namespace ConsoleSession

def slashes (n : Nat) : String := String.ofList (List.replicate n '/')

theorem toList_slashes (n : Nat) : (slashes n).toList = List.replicate n '/' := String.toList_ofList

theorem slashes_add (m n : Nat) : slashes m ++ slashes n = slashes (m + n) := by
  rw [← String.toList_inj, String.toList_append]
  simp only [toList_slashes, List.replicate_append_replicate]

namespace Endpoint

variable {base path root rest piece : String}

structure Root (base root : String) : Prop where
  whole : ∃ n, base = root ++ slashes n
  bare : root.toList.getLast? ≠ some '/'

structure Rest (path rest : String) : Prop where
  whole : ∃ n, path = slashes n ++ rest
  bare : rest.toList.head? ≠ some '/'

theorem stripEnd_eq_iff : Text.stripEnd '/' base = root ↔ Root base root := by
  rw [← String.toList_inj, Text.stripEnd, String.toList_ofList, Text.trimEnd_eq_iff]
  simp only [← toList_slashes, ← String.toList_append, String.toList_inj]
  exact ⟨fun h => ⟨h.1, h.2⟩, fun h => ⟨h.whole, h.bare⟩⟩

theorem stripStart_eq_iff : Text.stripStart '/' path = rest ↔ Rest path rest := by
  rw [← String.toList_inj, Text.stripStart, String.toList_ofList, Text.dropWhile_eq_iff]
  simp only [← toList_slashes, ← String.toList_append, String.toList_inj]
  exact ⟨fun h => ⟨h.1, h.2⟩, fun h => ⟨h.whole, h.bare⟩⟩

theorem exists_root (base : String) : ∃ root, Root base root := ⟨_, stripEnd_eq_iff.mp rfl⟩

theorem exists_rest (path : String) : ∃ rest, Rest path rest := ⟨_, stripStart_eq_iff.mp rfl⟩

theorem Root.append (h : Root base root) (n : Nat) : Root (base ++ slashes n) root := by
  obtain ⟨⟨m, rfl⟩, bare⟩ := h
  exact ⟨⟨m + n, by rw [String.append_assoc, slashes_add]⟩, bare⟩

theorem Rest.append (h : Rest path rest) (n : Nat) : Rest (slashes n ++ path) rest := by
  obtain ⟨⟨m, rfl⟩, bare⟩ := h
  exact ⟨⟨n + m, by rw [← String.append_assoc, slashes_add]⟩, bare⟩

theorem endpoint_eq (hroot : Root base root) (hrest : Rest path rest) :
    endpoint base path = root ++ "/" ++ rest := by
  rw [endpoint, stripEnd_eq_iff.mpr hroot, stripStart_eq_iff.mpr hrest]

theorem endpoint_rooted (hroot : Root base root) (bare : rest.toList.head? ≠ some '/') :
    endpoint base ("/" ++ rest) = root ++ ("/" ++ rest) := by
  have one : Rest ("/" ++ rest) rest := ⟨⟨1, rfl⟩, bare⟩
  rw [endpoint_eq hroot one, String.append_assoc]

theorem resource_eq (hroot : Root base root) (hrest : Rest path rest) :
    resource base path = root ++ "/api/" ++ rest := by
  have bare : ("api/" ++ rest).toList.head? ≠ some '/' := by
    rw [String.toList_append]
    nofun
  have spelled : "/api/" ++ rest = "/" ++ ("api/" ++ rest) := by
    rw [show "/api/" = "/" ++ "api/" from rfl, String.append_assoc]
  rw [resource, stripStart_eq_iff.mpr hrest, spelled, endpoint_rooted hroot bare, ← spelled,
    String.append_assoc]

theorem login_eq (hroot : Root base root) (provider : String) :
    login base provider = root ++ "/api/auth/" ++ Percent.component provider ++ "/login" := by
  have bare : ("api/auth/" ++ (Percent.component provider ++ "/login")).toList.head? ≠
      some '/' := by
    rw [String.toList_append]
    nofun
  have spelled : "/api/auth/" ++ (Percent.component provider ++ "/login") =
      "/" ++ ("api/auth/" ++ (Percent.component provider ++ "/login")) := by
    rw [show "/api/auth/" = "/" ++ "api/auth/" from rfl, String.append_assoc]
  rw [login, String.append_assoc, spelled, endpoint_rooted hroot bare, ← spelled,
    String.append_assoc, String.append_assoc]

theorem splitOn_login (root : String) (h : '/' ∉ piece.toList) :
    (root ++ "/api/auth/" ++ piece ++ "/login").toList.splitOn '/' =
      root.toList.splitOn '/' ++ ["api".toList, "auth".toList, piece.toList, "login".toList] := by
  have spelled : (root ++ "/api/auth/" ++ piece ++ "/login").toList =
      root.toList ++ '/' :: ("api".toList ++ '/' :: ("auth".toList ++ '/' ::
        (piece.toList ++ '/' :: "login".toList))) := by
    simp only [String.toList_append, List.append_assoc]
    rfl
  have plain (cs : List Char) (h : '/' ∉ cs) : cs.splitOn '/' = [cs] :=
    List.splitOn_eq_singleton h
  rw [spelled, List.splitOn_append_cons_self, List.splitOn_append_cons_self,
    List.splitOn_append_cons_self, List.splitOn_append_cons_self, plain "api".toList (by decide),
    plain "auth".toList (by decide), plain piece.toList h, plain "login".toList (by decide)]
  rfl

theorem login_parts {front other : String} (h : '/' ∉ piece.toList) (h' : '/' ∉ other.toList)
    (same : front ++ "/api/auth/" ++ other ++ "/login" =
      root ++ "/api/auth/" ++ piece ++ "/login") :
    front = root ∧ other = piece := by
  have pieces := congrArg (fun s : String => s.toList.splitOn '/') same
  simp only [splitOn_login _ h, splitOn_login _ h'] at pieces
  obtain ⟨fronts, ends⟩ := List.append_inj' pieces rfl
  have whole (s : String) : ['/'].intercalate (s.toList.splitOn '/') = s.toList :=
    List.intercalate_splitOn '/'
  refine ⟨String.toList_inj.mp ?_, String.toList_inj.mp ?_⟩
  · rw [← whole front, fronts, whole]
  · simpa using ends

def segmentMarks : List Char := ['/', '?', '#', ' ']

theorem segment_of_component (provider : String) :
    ∀ c ∈ segmentMarks, c ∉ (Percent.component provider).toList :=
  (Percent.escaped_component provider).free (by simp [segmentMarks, Percent.unreserved])

theorem not_mem_component (provider : String) : '/' ∉ (Percent.component provider).toList :=
  segment_of_component provider '/' List.mem_cons_self

theorem login_inj {provider provider' : String} :
    login base provider = login base provider' ↔ provider = provider' := by
  obtain ⟨root, hroot⟩ := exists_root base
  refine ⟨fun same => ?_, congrArg _⟩
  rw [login_eq hroot, login_eq hroot] at same
  have parts := login_parts (not_mem_component provider') (not_mem_component provider) same
  exact Percent.component_inj.mp parts.2

/-- An endpoint is its base without the slashes at the end, one slash, and the path without the
slashes in front, however many they are. So is the URL of a resource, whoever calls it; and a login
URL has one segment between its fixed parts, which stands for the provider and for no other. -/
theorem joined_by_one_slash (base path : String) (m n : Nat) :
    ∃ root rest, Root base root ∧ Rest path rest ∧ endpoint base path = root ++ "/" ++ rest ∧
    endpoint (base ++ slashes m) (slashes n ++ path) = endpoint base path ∧
    (∀ provider, login (base ++ slashes m) provider = login base provider ∧
      ∃ piece, login base provider = root ++ "/api/auth/" ++ piece ++ "/login" ∧
        (login base provider).toList.splitOn '/' =
          root.toList.splitOn '/' ++ ["api".toList, "auth".toList, piece.toList, "login".toList] ∧
        (∀ c ∈ segmentMarks, c ∉ piece.toList) ∧
        Percent.decode piece.toList = some provider.toList ∧
        ∀ front other, '/' ∉ other.toList →
          login base provider = front ++ "/api/auth/" ++ other ++ "/login" →
          front = root ∧ other = piece) ∧
    (∀ provider provider', login base provider = login base provider' ↔ provider = provider') ∧
    resource base path = root ++ "/api/" ++ rest ∧
    resource (base ++ slashes m) (slashes n ++ path) = resource base path ∧
    ∀ (c : Console) (call : Call),
      c.attempt { call with path := slashes n ++ call.path } = c.attempt call := by
  obtain ⟨root, hroot⟩ := exists_root base
  obtain ⟨rest, hrest⟩ := exists_rest path
  refine ⟨root, rest, hroot, hrest, endpoint_eq hroot hrest, ?_, fun provider => ⟨?_, ?_⟩,
    fun _ _ => login_inj, resource_eq hroot hrest, ?_, fun c call => ?_⟩
  · rw [endpoint_eq hroot hrest, endpoint_eq (hroot.append m) (hrest.append n)]
  · rw [login_eq hroot, login_eq (hroot.append m)]
  · have slash := not_mem_component provider
    refine ⟨_, login_eq hroot provider, ?_, segment_of_component provider,
      Percent.decode_component provider, fun front other slash' same => ?_⟩
    · rw [login_eq hroot, splitOn_login root slash]
    · rw [login_eq hroot] at same
      exact login_parts slash slash' same.symm
  · rw [resource_eq hroot hrest, resource_eq (hroot.append m) (hrest.append n)]
  · obtain ⟨root, hroot⟩ := exists_root c.base
    obtain ⟨rest, hrest⟩ := exists_rest call.path
    unfold Console.attempt
    rw [resource_eq hroot hrest, resource_eq hroot (hrest.append n)]

/-- A base with slashes to spare, and a provider whose name has marks in it. -/
theorem marked_provider_kept :
    login "http://h//" "a/b? é" = "http://h/api/auth/a%2Fb%3F%20%C3%A9/login" ∧
      login ("http://h//" ++ slashes 1) "a/b? é" = login "http://h//" "a/b? é" ∧
      Root "http://h//" "http://h" ∧
      Percent.decode "a%2Fb%3F%20%C3%A9".toList = some "a/b? é".toList ∧
      login "http://h//" "a%2Fb" ≠ login "http://h//" "a/b" ∧
      endpoint ("http://h//" ++ slashes 1) (slashes 2 ++ "x//") = "http://h/x//" := by
  have spelled : login "http://h//" "a/b? é" =
      "http://h" ++ "/api/auth/" ++ "a%2Fb%3F%20%C3%A9" ++ "/login" := by decide +kernel
  obtain ⟨root, rest, hroot, -, -, joined, logins, apart, -⟩ :=
    joined_by_one_slash "http://h//" "x//" 1 2
  obtain ⟨slashless, piece, -, -, -, read, unique⟩ := logins "a/b? é"
  obtain ⟨rfl, rfl⟩ := unique "http://h" "a%2Fb%3F%20%C3%A9" (by decide) spelled
  refine ⟨spelled, slashless, hroot, read, mt (apart _ _).mp (by decide), joined.trans ?_⟩
  decide +kernel

end Endpoint

end ConsoleSession
