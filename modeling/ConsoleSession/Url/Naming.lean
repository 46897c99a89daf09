import ConsoleSession.Url.Label
import ConsoleSession.Url.Mapping

/-!
How the names of hosts are written in ASCII. A host is read with some `Naming`, of which nothing is
known but that it leaves a plain name as it is, in lower case. `Naming.standard` replaces what stands
for other characters, composes the rest, and writes the labels beyond ASCII as codes.
-/

namespace ConsoleSession.Url

/-- Letters and digits of ASCII and hyphens, and nothing that looks like a code. -/
def Label.isPlain (label : List Char) : Bool :=
  label.all (fun c => c.isAlphanum || c == '-') && !Label.mark.isPrefixOf label

def isPlainName (name : List Char) : Bool :=
  ((name.map Char.toLower).splitOn '.').all Label.isPlain

structure Naming where
  toAscii? : List Char → Option (List Char)
  plain : ∀ name, isPlainName name = true → toAscii? name = some (name.map Char.toLower)

namespace Label

variable {label : List Char} {labels : List (List Char)}

theorem isAscii_of_le {c d : Char} (h : c.val ≤ d.val) (hd : d.toNat < 0x80) : isAscii c = true :=
  decide_eq_true (Nat.lt_of_le_of_lt (UInt32.le_iff_toNat_le.mp h) hd)

theorem isAscii_of_plain {c : Char} (h : (c.isAlphanum || c == '-') = true) : isAscii c = true := by
  obtain halnum | hhyphen := Bool.or_eq_true_iff.mp h
  · obtain halpha | hdigit := Bool.or_eq_true_iff.mp halnum
    · obtain hupper | hlower := Bool.or_eq_true_iff.mp halpha
      · exact isAscii_of_le (of_decide_eq_true hupper).2 (by decide)
      · exact isAscii_of_le (of_decide_eq_true (Bool.and_eq_true_iff.mp hlower).2) (by decide)
    · exact isAscii_of_le (of_decide_eq_true (Bool.and_eq_true_iff.mp hdigit).2) (by decide)
  · rw [eq_of_beq hhyphen]
    rfl

theorem all_isAscii_of_isPlain (h : isPlain label = true) : label.all isAscii = true :=
  List.all_eq_true.mpr fun c hc =>
    isAscii_of_plain (List.all_eq_true.mp (Bool.and_eq_true_iff.mp h).1 c hc)

theorem all_isAscii_intercalate (h : ∀ label ∈ labels, label.all isAscii = true) :
    (['.'].intercalate labels).all isAscii = true := by
  induction labels with
  | nil => rfl
  | cons label labels ih =>
    have hlabel := h label List.mem_cons_self
    cases labels with
    | nil => rwa [List.intercalate_singleton]
    | cons other labels =>
      rw [List.intercalate_cons_cons, List.all_append, List.all_append, hlabel,
        ih fun label hmem => h label (List.mem_cons_of_mem _ hmem)]
      rfl

theorem shown?_of_isPlain (h : isPlain label = true) : shown? label = some label := by
  have hmark : mark.isPrefixOf label = false := by simpa using (Bool.and_eq_true_iff.mp h).2
  rw [shown?, hmark, all_isAscii_of_isPlain h]
  rfl

theorem toAscii_of_isPlain (h : isPlain label = true) : toAscii label = label :=
  if_pos (all_isAscii_of_isPlain h)

theorem mapM_shown?_of_isPlain (h : ∀ label ∈ labels, isPlain label = true) :
    labels.mapM shown? = some labels := by
  induction labels with
  | nil => rfl
  | cons label labels ih =>
    rw [List.mapM_cons, shown?_of_isPlain (h label List.mem_cons_self),
      ih fun other hother => h other (List.mem_cons_of_mem _ hother)]
    rfl

end Label

/-- If one of the labels has letters written to the left, each of them runs one way. -/
def runOneWay (labels : List (List Char)) : Bool :=
  !(labels.any (·.any fun c => (Text.Direction.ofChar c).isLeftward)) ||
    labels.all Text.runsOneWay

theorem not_isLeftward {c : Char} (h : Label.isAscii c = true) :
    (Text.Direction.ofChar c).isLeftward = false := by
  rw [Text.Direction.ofChar, if_pos (of_decide_eq_true h)]
  split
  · rfl
  · split <;> rfl

theorem runOneWay_of_isPlain {labels : List (List Char)}
    (h : ∀ label ∈ labels, Label.isPlain label = true) : runOneWay labels = true := by
  have hnone : labels.any (·.any fun c => (Text.Direction.ofChar c).isLeftward) = false := by
    rw [List.any_eq_false]
    intro label hlabel hany
    obtain ⟨c, hc, hleft⟩ := List.any_eq_true.mp hany
    rw [not_isLeftward (List.all_eq_true.mp (Label.all_isAscii_of_isPlain (h label hlabel)) c hc)]
      at hleft
    cases hleft
  rw [runOneWay, hnone]
  rfl

/-- A name in small letters with every character replaced by what stands for it. -/
def prepared? (name : List Char) : Option (List Char) :=
  let small := name.map Char.toLower
  if small.all Label.isAscii then some small
  else (small.mapM mapped?).map fun cs => Text.composed cs.flatten

theorem prepared?_of_isPlainName {name : List Char} (h : isPlainName name = true) :
    prepared? name = some (name.map Char.toLower) := by
  have hascii := Label.all_isAscii_intercalate fun label hlabel =>
    Label.all_isAscii_of_isPlain (List.all_eq_true.mp h label hlabel)
  rw [List.intercalate_splitOn] at hascii
  exact if_pos hascii

def Naming.standard : Naming where
  toAscii? name := do
    let labels := (← prepared? name).splitOn '.'
    let shown ← labels.mapM Label.shown?
    if runOneWay shown then some (['.'].intercalate (labels.map Label.toAscii)) else none
  plain name h := by
    have hplain := List.all_eq_true.mp h
    have hascii := List.map_congr_left fun label hlabel =>
      Label.toAscii_of_isPlain (hplain label hlabel)
    rw [prepared?_of_isPlainName h]
    dsimp only [Option.bind_eq_bind, Option.bind_some]
    rw [Label.mapM_shown?_of_isPlain hplain, Option.bind_some,
      if_pos (runOneWay_of_isPlain hplain), hascii, List.map_id', List.intercalate_splitOn]

example : Naming.standard.toAscii? "BÜCHER。de".toList = some "xn--bcher-kva.de".toList := by
  decide +kernel

end ConsoleSession.Url
