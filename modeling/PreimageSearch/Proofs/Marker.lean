import Mathlib.Data.List.Chain
import PreimageSearch.Console
import PreimageSearch.Session.Rendering

/-!
# Where results begin

The console shows results under the words `Search` and `Results`. `Lacks c text` says that in `text`
the character `c` is never followed by an `e`, nor left at the end for a later one; texts that lack
`S` and `R` hold neither word, and so does everything that is put together from such texts.
-/

namespace PreimageSearch

/-- No `c` of the text is followed by an `e`, and the text does not end with `c`. -/
structure Lacks (c : Char) (text : String) : Prop where
  chain : text.toList.IsChain fun a b => ¬ (a = c ∧ b = 'e')
  last : text.toList.getLast? ≠ some c

/-- The text holds neither `Se` nor `Re`. -/
structure Unmarked (text : String) : Prop where
  search : Lacks 'S' text
  results : Lacks 'R' text

namespace Lacks

instance (c : Char) (text : String) : Decidable (Lacks c text) :=
  decidable_of_iff ((text.toList.IsChain fun a b => ¬ (a = c ∧ b = 'e')) ∧
    text.toList.getLast? ≠ some c) ⟨fun h => ⟨h.1, h.2⟩, fun h => ⟨h.1, h.2⟩⟩

variable {c : Char} {first second text : String}

theorem append (h : Lacks c first) (h' : Lacks c second) : Lacks c (first ++ second) := by
  refine ⟨?_, ?_⟩
  · rw [String.toList_append, List.isChain_append]
    refine ⟨h.chain, h'.chain, ?_⟩
    rintro a last b - ⟨rfl, -⟩
    exact h.last last
  · rw [String.toList_append, List.getLast?_append]
    rcases hl : second.toList.getLast? with _ | d
    · simpa using h.last
    · simpa [hl] using h'.last

theorem of_forall (h : ∀ d ∈ text.toList, d ≠ c) : Lacks c text := by
  refine ⟨?_, fun last => h c (List.mem_of_getLast? last) rfl⟩
  rw [List.isChain_iff_getElem]
  rintro i inside ⟨same, -⟩
  exact h _ (List.getElem_mem _) same

theorem join {texts : List String} (h : ∀ text ∈ texts, Lacks c text) :
    Lacks c (String.join texts) := by
  induction texts with
  | nil => exact of_forall (by simp)
  | cons text texts ih =>
    rw [String.join_cons]
    exact (h text (by simp)).append (ih fun other member => h other (by simp [member]))

theorem intercalate {separator : String} (hs : Lacks c separator) {texts : List String}
    (h : ∀ text ∈ texts, Lacks c text) : Lacks c (separator.intercalate texts) := by
  induction texts with
  | nil => exact of_forall (by simp)
  | cons text texts ih =>
    have rest := ih fun other member => h other (by simp [member])
    rcases texts with _ | ⟨next, texts⟩
    · exact h text (by simp)
    · rw [String.intercalate_cons_cons]
      exact ((h text (by simp)).append hs).append rest

/-- A text that lacks `c` holds no word that begins with `c` and `e`. -/
theorem not_infix (h : Lacks c text) (rest : List Char) :
    ¬ (c :: 'e' :: rest) <:+: text.toList := by
  intro inside
  have part := h.chain.infix inside
  rw [List.isChain_cons_cons] at part
  exact part.1 ⟨rfl, rfl⟩

/-- The first `c` before an `e` splits a text in one way. -/
theorem split_unique (h : Lacks c text) (other : c ≠ 'e') {before after rest : List Char}
    (alone : c ∉ rest)
    (same : text.toList ++ c :: 'e' :: rest = before ++ c :: 'e' :: after) : after = rest := by
  rcases List.append_eq_append_iff.1 same with ⟨middle, -, split⟩ | ⟨middle, split, more⟩
  · rcases middle with _ | ⟨d, middle⟩
    · simpa using split.symm
    -- A later `c` would be one of `rest`.
    · have member : c ∈ 'e' :: rest := by
        rw [(List.cons.inj split).2]
        simp
      exact absurd member (by simp [other, alone])
  · rcases middle with _ | ⟨d, _ | ⟨d', middle⟩⟩
    · simpa using more
    · simp only [List.cons_append, List.nil_append, List.cons.injEq] at more
      exact absurd more.2.1.symm other
    -- An earlier `c` before an `e` would be one of the text.
    · simp only [List.cons_append, List.cons.injEq] at more
      rw [← more.1, ← more.2.1] at split
      refine absurd ⟨before, [], ?_⟩ (h.not_infix middle)
      rw [List.append_nil, split]

end Lacks

namespace Unmarked

instance (text : String) : Decidable (Unmarked text) :=
  decidable_of_iff (Lacks 'S' text ∧ Lacks 'R' text) ⟨fun h => ⟨h.1, h.2⟩, fun h => ⟨h.1, h.2⟩⟩

variable {first second text : String}

theorem append (h : Unmarked first) (h' : Unmarked second) : Unmarked (first ++ second) :=
  ⟨h.search.append h'.search, h.results.append h'.results⟩

theorem join {texts : List String} (h : ∀ text ∈ texts, Unmarked text) :
    Unmarked (String.join texts) :=
  ⟨.join fun text member => (h text member).search,
    .join fun text member => (h text member).results⟩

theorem of_forall (h : ∀ c ∈ text.toList, c ≠ 'S' ∧ c ≠ 'R') : Unmarked text :=
  ⟨.of_forall fun c member => (h c member).1, .of_forall fun c member => (h c member).2⟩

/-! ## Texts of the console -/

theorem natText (n : Nat) : Unmarked (toString n) := by
  apply of_forall
  intro c member
  have digit : c.isDigit = true :=
    Nat.isDigit_of_mem_toDigits (b := 10) (n := n) (by decide) (by decide) (by simpa using member)
  constructor <;> rintro rfl <;> revert digit <;> decide

theorem question {prompt : String} (h : Unmarked prompt) : Unmarked (Dialogue.question prompt) :=
  (append (by decide) h).append (by decide)

theorem menu {prompt : String} (h : Unmarked prompt) {labels : List String}
    (hl : ∀ label ∈ labels, Unmarked label) : Unmarked (Dialogue.menu prompt labels) := by
  refine h.append (join ?_)
  intro text member
  obtain ⟨⟨label, position⟩, listed, rfl⟩ := List.mem_map.1 member
  have labelled : Unmarked label := hl label (List.fst_mem_of_mem_zipIdx listed)
  exact (((append (by decide) (natText _)).append (by decide)).append labelled)

theorem twoDigits (n : Nat) : Unmarked (Duration.twoDigits n) := by
  apply of_forall
  have plain : ∀ d < 10, Nat.digitChar d ≠ 'S' ∧ Nat.digitChar d ≠ 'R' := by decide
  intro c member
  simp only [Duration.twoDigits, String.toList_ofList, List.mem_cons, List.not_mem_nil,
    or_false] at member
  rcases member with rfl | rfl <;> exact plain _ (Nat.mod_lt _ (by decide))

theorem duration (elapsed : Duration) : Unmarked elapsed.text :=
  ((((((twoDigits _).append (by decide)).append (twoDigits _)).append (by decide)).append
    (twoDigits _)).append (by decide)).append (twoDigits _)

theorem runtime (elapsed : Duration) : Unmarked (Rendering.runtime elapsed) :=
  (append (by decide) (duration elapsed)).append (by decide)

end Unmarked

end PreimageSearch
