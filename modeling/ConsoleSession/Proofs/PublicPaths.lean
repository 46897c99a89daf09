import ConsoleSession.Guard
import ConsoleSession.Proofs.Spans

/-!
# Which paths are public

A public prefix is compared with a path as a text, up to a slash or the end. That is to compare them
segment by segment: the segments of the prefix, less the slashes at its end, must be the first
segments of the path. What stands behind the path does not count, nor do the slashes at the ends of
the prefixes or their order, and a further prefix can only make more paths public.
-/

namespace ConsoleSession

namespace Guard

variable {g : Guard} {p path pre q rest text query : List Char}

def segments (path : List Char) : List (List Char) := path.splitOn '/'

/-- The prefix `p`, without the slashes at its end, is nothing or the first segments of the path. -/
def Covers (p path : List Char) : Prop :=
  ∃ q n, p = q ++ List.replicate n '/' ∧ q.getLast? ≠ some '/' ∧
    (q = [] ∨ segments q <+: segments path)

structure Cut (text path query : List Char) : Prop where
  whole : text = path ++ query
  plain : '?' ∉ path ∧ '#' ∉ path
  marked : ∀ c, query.head? = some c → c = '?' ∨ c = '#'

def SlashesApart (p p' : String) : Prop :=
  ∃ q m n, p.toList = q ++ List.replicate m '/' ∧ p'.toList = q ++ List.replicate n '/'

theorem dropPrefix?_eq_some : dropPrefix? pre path = some rest ↔ path = pre ++ rest := by
  fun_induction dropPrefix? pre path with
  | case1 cs => rw [Option.some_inj, List.nil_append]
  | case2 p ps => exact iff_of_false nofun nofun
  | case3 p ps cs ih => rw [ih, List.cons_append, List.cons.injEq, and_iff_right rfl]
  | case4 p ps c cs other =>
    refine iff_of_false nofun fun same => other ?_
    exact (List.cons.inj same).1.symm

theorem intercalate_append {xs ys : List (List Char)} (hx : xs ≠ []) (hy : ys ≠ []) :
    ['/'].intercalate (xs ++ ys) = ['/'].intercalate xs ++ '/' :: ['/'].intercalate ys := by
  induction xs with
  | nil => exact absurd rfl hx
  | cons x xs ih =>
    cases xs with
    | nil =>
      rw [List.cons_append, List.nil_append, List.intercalate_cons_of_ne_nil hy,
        List.intercalate_singleton, List.append_assoc]
      rfl
    | cons x' xs =>
      have joined := ih (List.cons_ne_nil _ _)
      rw [List.cons_append, List.intercalate_cons_of_ne_nil (by simp),
        List.intercalate_cons_of_ne_nil (List.cons_ne_nil _ _), joined]
      simp only [List.append_assoc]

theorem segments_prefix_iff :
    segments q <+: segments path ↔ path = q ∨ ∃ rest, path = q ++ '/' :: rest := by
  constructor
  · rintro ⟨more, first⟩
    have joined : ['/'].intercalate (segments q ++ more) = path := by
      rw [first, segments, List.intercalate_splitOn]
    have back : ['/'].intercalate (segments q) = q := List.intercalate_splitOn '/'
    have some : segments q ≠ [] := List.splitOn_ne_nil _ _
    by_cases none : more = []
    · rw [none, List.append_nil, back] at joined
      exact .inl joined.symm
    · rw [intercalate_append some none, back] at joined
      exact .inr ⟨_, joined.symm⟩
  · rintro (rfl | ⟨rest, rfl⟩)
    · exact List.prefix_refl _
    · rw [segments, segments, List.splitOn_append_cons_self]
      exact List.prefix_append _ _

theorem covers_iff : Covers p path ↔ Text.trimEnd (· == '/') p = [] ∨
    segments (Text.trimEnd (· == '/') p) <+: segments path := by
  constructor
  · rintro ⟨q, n, whole, bare, first⟩
    rwa [Text.trimEnd_eq_iff.mpr ⟨⟨n, whole⟩, bare⟩]
  · intro first
    obtain ⟨⟨n, whole⟩, bare⟩ := Text.trimEnd_eq_iff.mp (rfl : Text.trimEnd (· == '/') p = _)
    exact ⟨_, n, whole, bare, first⟩

theorem SlashesApart.covers_iff {p p' : String} (h : SlashesApart p p') (path : List Char) :
    Covers p.toList path ↔ Covers p'.toList path := by
  obtain ⟨q, m, n, whole, whole'⟩ := h
  have same : Text.trimEnd (· == '/') p.toList = Text.trimEnd (· == '/') p'.toList := by
    rw [whole, whole', Text.trimEnd_append_of_pos q Text.eq_of_mem_replicate,
      Text.trimEnd_append_of_pos q Text.eq_of_mem_replicate]
  rw [Guard.covers_iff, Guard.covers_iff, same]

theorem isUnder_iff : isUnder path p = true ↔ Covers p path := by
  rw [covers_iff, segments_prefix_iff, isUnder]
  generalize Text.trimEnd (· == '/') p = pre
  rw [Bool.or_eq_true, List.isEmpty_iff]
  refine or_congr_right ?_
  cases found : dropPrefix? pre path with
  | none =>
    have other (rest : List Char) : path ≠ pre ++ rest := fun same => by
      rw [dropPrefix?_eq_some.mpr same] at found
      cases found
    refine iff_of_false nofun ?_
    rintro (same | ⟨rest, same⟩)
    · exact other [] (by rw [same, List.append_nil])
    · exact other _ same
  | some rest =>
    obtain rfl := dropPrefix?_eq_some.mp found
    cases rest with
    | nil => exact iff_of_true rfl (.inl (List.append_nil pre))
    | cons c rest =>
      show (c == '/') = true ↔ _
      rw [beq_iff_eq]
      constructor
      · rintro rfl
        exact .inr ⟨rest, rfl⟩
      · rintro (same | ⟨rest', same⟩)
        · exact absurd (List.append_right_eq_self.mp same) (List.cons_ne_nil _ _)
        · exact (List.cons.inj (List.append_cancel_left same)).1

theorem Cut.pathPart_eq {requested : String} (h : Cut requested.toList path query) :
    pathPart requested = path := by
  have inside : ∀ c ∈ path, (c != '?' && c != '#') = true := by
    intro c hc
    have noQuery : c ≠ '?' := fun mark => h.plain.1 (mark ▸ hc)
    have noFragment : c ≠ '#' := fun mark => h.plain.2 (mark ▸ hc)
    simp [noQuery, noFragment]
  have behind : ∀ c, query.head? = some c → (c != '?' && c != '#') = false := by
    intro c hc
    obtain rfl | rfl := h.marked c hc <;> rfl
  have spans := Text.span_append inside behind
  rw [List.span_eq_takeWhile_dropWhile] at spans
  rw [pathPart, h.whole]
  exact congrArg Prod.fst spans

theorem cut_pathPart (requested : String) :
    ∃ query, Cut requested.toList (pathPart requested) query := by
  obtain ⟨path, query, whole, inside, behind, -⟩ :=
    Text.span_spec (fun c => c != '?' && c != '#') requested.toList
  have cut : Cut requested.toList path query := by
    refine ⟨whole, ⟨fun hc => ?_, fun hc => ?_⟩, fun c hc => ?_⟩
    · exact absurd (inside _ hc) (by decide)
    · exact absurd (inside _ hc) (by decide)
    · simpa [imp_iff_not_or] using behind c hc
  exact ⟨query, cut.pathPart_eq.symm ▸ cut⟩

theorem isPublic_iff {requested : String} : g.isPublic requested = true ↔
    pathPart requested = g.loginPath.toList ∨
      ∃ p ∈ g.publicPaths, Covers p.toList (pathPart requested) := by
  rw [isPublic, Bool.or_eq_true, beq_iff_eq, List.any_eq_true]
  simp only [isUnder_iff]

theorem isPublic_congr {ps : List String} (covered : ∀ path,
    (∃ p ∈ g.publicPaths, Covers p.toList path) ↔ ∃ p ∈ ps, Covers p.toList path)
    (requested : String) :
    ({ g with publicPaths := ps } : Guard).isPublic requested = g.isPublic requested := by
  rw [Bool.eq_iff_iff, isPublic_iff, isPublic_iff, covered]

theorem covered_congr {ps ps' : List String} (h : List.Forall₂ SlashesApart ps ps')
    (path : List Char) :
    (∃ p ∈ ps, Covers p.toList path) ↔ ∃ p ∈ ps', Covers p.toList path := by
  induction h with
  | nil => rfl
  | cons apart _ ih => simp only [List.mem_cons, exists_eq_or_imp, apart.covers_iff, ih]

/-- A request is public exactly if its path is the login path, or the segments of some prefix are the
first segments of its path. So neither its query and its fragment count nor the slashes at the ends
of the prefixes or their order, and no further prefix shuts a path that was public. -/
theorem isPublic_iff_segments (g : Guard) (requested : String) :
    (∃ query, Cut requested.toList (pathPart requested) query) ∧
    (g.isPublic requested = true ↔ pathPart requested = g.loginPath.toList ∨
      ∃ p ∈ g.publicPaths, Covers p.toList (pathPart requested)) ∧
    (∀ (other : String) path query query', Cut requested.toList path query →
      Cut other.toList path query' → g.isPublic other = g.isPublic requested) ∧
    (∀ ps, List.Forall₂ SlashesApart g.publicPaths ps →
      ({ g with publicPaths := ps } : Guard).isPublic requested = g.isPublic requested) ∧
    (∀ ps, g.publicPaths.Perm ps →
      ({ g with publicPaths := ps } : Guard).isPublic requested = g.isPublic requested) ∧
    (∀ p before after, g.publicPaths = before ++ after → g.isPublic requested = true →
      ({ g with publicPaths := before ++ p :: after } : Guard).isPublic requested = true) := by
  refine ⟨cut_pathPart requested, isPublic_iff, fun other path query query' here there => ?_,
    fun ps apart => ?_, fun ps reordered => ?_, fun p before after split shown => ?_⟩
  · rw [isPublic, isPublic, here.pathPart_eq, there.pathPart_eq]
  · exact isPublic_congr (covered_congr apart) requested
  · exact isPublic_congr (fun path => by simp only [reordered.mem_iff]) requested
  · rw [isPublic_iff] at shown ⊢
    have kept : ∀ p' ∈ g.publicPaths, p' ∈ before ++ p :: after := by
      rw [split]
      exact ((List.sublist_cons_self p after).append_left before).subset
    exact shown.imp_right fun ⟨p', member, covers⟩ => ⟨p', kept p' member, covers⟩

def handbook : Guard := ⟨"/login", ["/docs//", "/help"], none⟩

/-- A page below a prefix is public, with a fragment or without, wherever other prefixes stand; one
whose first segment only begins alike is not. -/
theorem handbook_public :
    handbook.isPublic "/docs/a#b" = true ∧ handbook.isPublic "/docs/a" = true ∧
      (⟨"/login", ["/help", "/docs//"], none⟩ : Guard).isPublic "/docs/a#b" = true ∧
      (⟨"/login", ["/docs//", "/x", "/help"], none⟩ : Guard).isPublic "/docs/a#b" = true ∧
      (⟨"/login", ["/docs", "/help"], none⟩ : Guard).isPublic "/docset" = false := by
  have shown : handbook.isPublic "/docs/a#b" = true := by decide
  have shut : handbook.isPublic "/docset" = false := by decide
  have cut : Cut "/docs/a#b".toList "/docs/a".toList "#b".toList :=
    ⟨rfl, by decide, fun c hc => .inr (Option.some.inj hc).symm⟩
  have whole : Cut "/docs/a".toList "/docs/a".toList [] := ⟨rfl, by decide, nofun⟩
  have apart : List.Forall₂ SlashesApart ["/docs//", "/help"] ["/docs", "/help"] :=
    .cons ⟨"/docs".toList, 2, 0, rfl, rfl⟩ (.cons ⟨"/help".toList, 0, 0, rfl, rfl⟩ .nil)
  obtain ⟨-, -, query, -, order, further⟩ := isPublic_iff_segments handbook "/docs/a#b"
  obtain ⟨-, -, -, slashes, -⟩ := isPublic_iff_segments handbook "/docset"
  exact ⟨shown, (query "/docs/a" _ _ _ cut whole).trans shown, (order _ (.swap _ _ [])).trans shown,
    further "/x" ["/docs//"] _ rfl shown, (slashes _ apart).trans shut⟩

end Guard

end ConsoleSession
