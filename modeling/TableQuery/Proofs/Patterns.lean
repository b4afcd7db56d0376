import Mathlib.Data.List.Infix
import TableQuery.Database.Pattern

/-!
# What patterns match

The ends of a text that a pattern matches are found from the end of the pattern, and all of them at
once.  They are the ends that the pattern matches when it is read from its start.  A text between two
percent signs therefore matches exactly the texts that contain it.
-/

namespace TableQuery
namespace Database

/-! ## Patterns from the start -/

/-- Whether a text matches a pattern, read from the start of both. -/
def accepts : List Char → List Char → Bool
  | [], text => text.isEmpty
  | c :: rest, text =>
    if c = '%' then text.tails.any (accepts rest)
    else match text with
      | [] => false
      | found :: others => matchesChar c found && accepts rest others

theorem accepts_percent
    (rest text : List Char) :
    accepts ('%' :: rest) text = text.tails.any (accepts rest) :=
  if_pos rfl

theorem accepts_cons_nil
    {c : Char}
    (single : c ≠ '%')
    (rest : List Char) :
    accepts (c :: rest) [] = false := by
  rw [accepts, if_neg single]

theorem accepts_cons_cons
    {c : Char}
    (single : c ≠ '%')
    (rest : List Char)
    (found : Char)
    (others : List Char) :
    accepts (c :: rest) (found :: others) = (matchesChar c found && accepts rest others) := by
  rw [accepts, if_neg single]

/-! ## Ends of texts -/

/-- The whole text is the first of its ends. -/
theorem map_tails
    (test : List Char → Bool)
    (text : List Char) :
    text.tails.map test = test text :: (text.tails.map test).tail := by
  cases text <;> rfl

theorem emptyEnd_eq (text : List Char) : emptyEnd text = text.tails.map (accepts []) := by
  induction text with
  | nil => rfl
  | cons first others inductionHypothesis =>
      have longer : emptyEnd (first :: others) = false :: emptyEnd others := rfl
      rw [longer, inductionHypothesis]
      rfl

/-- Before any characters stand the ends of which some end is accepted. -/
theorem earlierEnds_map_tails
    (test : List Char → Bool)
    (text : List Char) :
    earlierEnds (text.tails.map test) = text.tails.map fun ending => ending.tails.any test := by
  induction text with
  | nil => rfl
  | cons first others inductionHypothesis =>
      have longer : earlierEnds ((first :: others).tails.map test) =
          (test (first :: others) || (earlierEnds (others.tails.map test)).headD false) ::
            earlierEnds (others.tails.map test) := rfl
      have head : (others.tails.map fun ending => ending.tails.any test).headD false =
          others.tails.any test := by
        rw [map_tails]
        rfl
      rw [longer, inductionHypothesis, head]
      rfl

/-- Before one character stand the ends that begin with it and go on as accepted. -/
theorem endsAfter_map_tails
    {c : Char}
    (single : c ≠ '%')
    (rest text : List Char) :
    endsAfter c text (text.tails.map (accepts rest)) = text.tails.map (accepts (c :: rest)) := by
  induction text with
  | nil => simp [endsAfter, accepts_cons_nil single]
  | cons first others inductionHypothesis =>
      have longer : endsAfter c (first :: others) ((first :: others).tails.map (accepts rest)) =
          (matchesChar c first && accepts rest others) ::
            endsAfter c others (others.tails.map (accepts rest)) := by
        have ends : ((first :: others).tails.map (accepts rest)).tail =
          accepts rest others :: (others.tails.map (accepts rest)).tail := map_tails _ others
        rw [endsAfter, ends]
        rfl
      rw [longer, inductionHypothesis, List.tails_cons, List.map_cons, accepts_cons_cons single]

/-- The ends that a pattern matches are those that it accepts from its start. -/
theorem matchedEnds_eq
    (pattern text : List Char) :
    matchedEnds pattern text = text.tails.map (accepts pattern) := by
  -- The text stays whole: what is found for the rest of the pattern covers all ends of it.
  induction pattern with
  | nil => exact emptyEnd_eq text
  | cons c rest inductionHypothesis =>
      have next : matchedEnds (c :: rest) text =
        if c = '%' then earlierEnds (matchedEnds rest text)
        else endsAfter c text (matchedEnds rest text) := rfl
      rw [next, inductionHypothesis]
      by_cases percent : c = '%'
      · subst percent
        rw [if_pos rfl, earlierEnds_map_tails]
        exact List.map_congr_left fun ending _ => (accepts_percent rest ending).symm
      · rw [if_neg percent, endsAfter_map_tails percent]

/-- A text matches a pattern exactly if the pattern accepts it from its start. -/
theorem matchesPattern_eq
    (pattern text : List Char) :
    matchesPattern pattern text = accepts pattern text := by
  rw [matchesPattern, matchedEnds_eq, map_tails]
  rfl

/-! ## Texts in patterns -/

/-- A character as it is compared: ASCII letters without their case. -/
def comparedChar (c : Char) : Char :=
  Text.lowerAscii (patternChar c)

/-- Whether a text stands somewhere in another one, up to what characters are taken for. -/
def ContainsUpTo (view : Char → Char) (content term : String) : Prop :=
  term.toList.map view <:+: content.toList.map view

instance (view : Char → Char) (content term : String) :
    Decidable (ContainsUpTo view content term) :=
  inferInstanceAs (Decidable (_ <:+: _))

/-- Characters that stand for themselves in a pattern. -/
def IsLiteral (term : List Char) : Prop :=
  '%' ∉ term ∧ '_' ∉ term

instance (term : List Char) : Decidable (IsLiteral term) :=
  inferInstanceAs (Decidable (_ ∧ _))

theorem matchesChar_iff
    {expected : Char}
    (single : expected ≠ '_')
    (found : Char) :
    matchesChar expected found = true ↔ comparedChar expected = comparedChar found := by
  simp [matchesChar, single, comparedChar]

/-- Before a percent sign stands what the text begins with. -/
theorem accepts_append_percent
    {term : List Char}
    (literal : IsLiteral term)
    (text : List Char) :
    accepts (term ++ ['%']) text = true ↔ term.map comparedChar <+: text.map comparedChar := by
  induction term generalizing text with
  | nil =>
      have ending : [] ∈ text.tails := (List.mem_tails [] text).mpr List.nil_suffix
      refine iff_of_true ?_ List.nil_prefix
      exact (accepts_percent [] text).trans (List.any_eq_true.mpr ⟨[], ending, rfl⟩)
  | cons c rest inductionHypothesis =>
      obtain ⟨⟨notPercent, restPercent⟩, notUnderscore, restUnderscore⟩ :
          ('%' ≠ c ∧ '%' ∉ rest) ∧ '_' ≠ c ∧ '_' ∉ rest := by
        simpa [IsLiteral] using literal
      cases text with
      | nil => simp [accepts_cons_nil notPercent.symm]
      | cons found others =>
          rw [List.cons_append, accepts_cons_cons notPercent.symm, Bool.and_eq_true,
            matchesChar_iff notUnderscore.symm, inductionHypothesis ⟨restPercent, restUnderscore⟩,
            List.map_cons, List.map_cons, List.cons_prefix_cons]

/-- Between percent signs stands what the text contains. -/
theorem matchesPattern_between
    {term : String}
    (literal : IsLiteral term.toList)
    (content : String) :
    matchesPattern ("%" ++ term ++ "%").toList content.toList = true ↔
      ContainsUpTo comparedChar content term := by
  have pattern : ("%" ++ term ++ "%").toList = '%' :: (term.toList ++ ['%']) := by simp
  rw [pattern, matchesPattern_eq, accepts_percent, List.any_eq_true, ContainsUpTo,
    List.infix_iff_prefix_suffix]
  constructor
  · rintro ⟨ending, member, accepted⟩
    refine ⟨ending.map comparedChar, (accepts_append_percent literal ending).mp accepted, ?_⟩
    exact ((List.mem_tails _ _).mp member).map comparedChar
  · rintro ⟨_, starts, ends⟩
    obtain ⟨ending, isEnd, rfl⟩ := List.suffix_map_iff.mp ends
    exact ⟨ending, (List.mem_tails _ _).mpr isEnd,
      (accepts_append_percent literal ending).mpr starts⟩

end Database
end TableQuery
