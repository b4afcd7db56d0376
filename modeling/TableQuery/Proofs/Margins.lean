import Mathlib.Data.List.DropRight
import TableQuery.Proofs.Loading
import TableQuery.Proofs.Numerals

/-!
# Integers in settings

A setting is read as an integer after all white space around it has been removed, a text that stands
for a count after all white space but separators.  The two readings agree on a text unless there is a
separator in its margins, in which case the text counts as zero.
-/

namespace TableQuery
namespace Text

/-! ## Margins of texts -/

/-- The white space at the beginning and at the end of a list of characters. -/
def margins (chars : List Char) : List Char :=
  chars.takeWhile isBlank ++ chars.rtakeWhile isBlank

/-- The margins of a text are what is around its part without white space. -/
theorem margins_append
    {front body back : List Char}
    (nonempty : body ≠ [])
    (within : ∀ c ∈ body, isBlank c = false)
    (around : ∀ c ∈ front ++ back, isBlank c) :
    margins (front ++ body ++ back) = front ++ back := by
  have before : ∀ c ∈ front, isBlank c := fun c member => around c (List.mem_append_left back member)
  have behind : ∀ c ∈ back.reverse, isBlank c := fun c member =>
    around c (List.mem_append_right front (List.mem_reverse.mp member))
  have none {others : List Char} (same : ∀ c ∈ others, c ∈ body) (some : others ≠ [])
      (rest : List Char) : (others ++ rest).takeWhile isBlank = [] := by
    obtain ⟨c, more, rfl⟩ := List.exists_cons_of_ne_nil some
    simp [within c (same c List.mem_cons_self)]
  have first := none (fun c member => member) nonempty back
  have last := none (fun c member => List.mem_reverse.mp member) (by simpa using nonempty)
    front.reverse
  rw [margins, List.append_assoc, List.takeWhile_append_of_pos before, first, List.append_nil,
    List.rtakeWhile, List.reverse_append, List.reverse_append, List.append_assoc,
    List.takeWhile_append_of_pos behind, last, List.append_nil, List.reverse_reverse]

/-- What is removed from the ends of a text are blanks. -/
theorem exists_stripWith
    (blank : Char → Bool)
    (chars : List Char) :
    ∃ front back, chars = front ++ stripWith blank chars ++ back ∧ ∀ c ∈ front ++ back, blank c := by
  refine ⟨chars.takeWhile blank, (chars.dropWhile blank).rtakeWhile blank, ?_, fun c member => ?_⟩
  · change chars = _ ++ (chars.dropWhile blank).rdropWhile blank ++ _
    rw [List.append_assoc, List.rdropWhile_append_rtakeWhile, List.takeWhile_append_dropWhile]
  · rcases List.mem_append.mp member with before | behind
    · exact List.mem_takeWhile_imp before
    · exact List.mem_rtakeWhile_imp behind

end Text

namespace Numeral

open Text

/-- A numeral has no white space. -/
theorem isBlank_of_integer?
    {chars : List Char}
    {number : Int}
    (read : integer? chars = some number) :
    chars ≠ [] ∧ ∀ c ∈ chars, isBlank c = false := by
  obtain ⟨digits, grouped, _, _⟩ := integer?_eq_some_iff.mp read
  have body : ∀ c ∈ (splitSign chars).2, isBlank c = false := by
    intro c member
    rcases grouped.isDigit_or_underscore member with digit | rfl
    · exact isBlank_of_isDigit digit
    · decide
  unfold splitSign at body
  split at body
  · exact ⟨by simp, List.forall_mem_cons.mpr ⟨by decide, body⟩⟩
  · exact ⟨by simp, List.forall_mem_cons.mpr ⟨by decide, body⟩⟩
  · refine ⟨?_, body⟩
    rintro rfl
    exact Grouped.not_nil digits grouped

/-- What is no white space is no blank of any class of it. -/
theorem eq_false_of_white
    {blank : Char → Bool}
    (white : ∀ c, blank c → isBlank c)
    {c : Char}
    (notWhite : isBlank c = false) :
    blank c = false :=
  Bool.eq_false_iff.mpr fun known => by simp [white c known] at notWhite

/-- A numeral is read between blanks, whatever kind of white space they are. -/
theorem integer?_stripWith_eq_some_iff
    {blank : Char → Bool}
    (white : ∀ c, blank c → isBlank c)
    {chars : List Char}
    {number : Int} :
    integer? (stripWith blank chars) = some number ↔
      ∃ front body back, chars = front ++ body ++ back ∧ (∀ c ∈ front ++ back, blank c) ∧
        integer? body = some number := by
  constructor
  · intro read
    obtain ⟨front, back, split, around⟩ := exists_stripWith blank chars
    exact ⟨front, _, back, split, around, read⟩
  · rintro ⟨front, body, back, rfl, around, read⟩
    have within : ∀ c ∈ body, blank c = false := fun c member =>
      eq_false_of_white white ((isBlank_of_integer? read).2 c member)
    rw [stripWith_append (fun c member => around c (List.mem_append_left back member)) within
      (fun c member => around c (List.mem_append_right front member)), read]

end Numeral

namespace Settings

open Text Numeral

/-! ## Settings and counts -/

theorem isBlank_of_isNumberBlank
    (c : Char)
    (blank : isNumberBlank c) :
    isBlank c :=
  ((isNumberBlank_iff c).mp blank).1

/-- A setting is read as a numeral between white space of any kind. -/
theorem integerOf?_eq_some_iff
    {content : String}
    {number : Int} :
    integerOf? content = some number ↔
      ∃ front body back, content.toList = front ++ body ++ back ∧ (∀ c ∈ front ++ back, isBlank c) ∧
        integer? body = some number := by
  have read : integerOf? content =
      integer? (stripWith isNumberBlank (stripWith isBlank content.toList)) := by
    rw [integerOf?, Value.integerOfText?, strip, String.toList_ofList]
  constructor
  · intro known
    obtain ⟨front, body, back, split, around, number⟩ :=
      (integer?_stripWith_eq_some_iff isBlank_of_isNumberBlank).mp (read ▸ known)
    obtain ⟨first, last, whole, outside⟩ := exists_stripWith isBlank content.toList
    refine ⟨first ++ front, body, back ++ last, ?_, ?_, number⟩
    · rw [whole, split]
      simp
    · intro c member
      simp only [List.mem_append] at member around outside
      rcases member with (inFirst | inFront) | (inBack | inLast)
      · exact outside c (.inl inFirst)
      · exact isBlank_of_isNumberBlank c (around c (.inl inFront))
      · exact isBlank_of_isNumberBlank c (around c (.inr inBack))
      · exact outside c (.inr inLast)
  · intro parts
    have whole := (integer?_stripWith_eq_some_iff fun _ => id).mpr parts
    obtain ⟨_, within⟩ := isBlank_of_integer? whole
    have kept : stripWith isNumberBlank (stripWith isBlank content.toList) =
        stripWith isBlank content.toList :=
      Database.stripWith_of_forall_not fun c member =>
        eq_false_of_white isBlank_of_isNumberBlank (within c member)
    rw [read, kept, whole]

theorem runFrom_getInteger_of_loaded
    {world : World}
    (loaded : world.settings.loaded)
    (name : String)
    (default : Value) :
    (getInteger (.text name) default).runFrom world =
      (.ok ((((world.valueOf? name).bind integerOf?).map .int).getD default), world) := by
  unfold getInteger findValue?
  simp only [ExceptT.runFrom_bind, runFrom_load_of_loaded loaded]
  rfl

/-- A text with a separator in its margins is no numeral for a count. -/
theorem integer?_eq_none_of_separator
    {content : String}
    (separated : ∃ c ∈ margins content.toList, IsSeparator c) :
    integer? (stripWith isNumberBlank content.toList) = none := by
  refine Option.eq_none_iff_forall_ne_some.mpr fun number same => ?_
  rw [integer?_stripWith_eq_some_iff isBlank_of_isNumberBlank] at same
  obtain ⟨front, body, back, split, around, read⟩ := same
  obtain ⟨nonempty, within⟩ := isBlank_of_integer? read
  obtain ⟨c, member, separates⟩ := separated
  rw [split, margins_append nonempty within fun c member =>
    isBlank_of_isNumberBlank c (around c member)] at member
  exact ((isNumberBlank_iff c).mp (around c member)).2 separates

/-- The readings of a text as a setting and as a count meet where its margins have no separators. -/
theorem integer?_eq_integerOf?
    {content : String}
    (clear : ∀ c ∈ margins content.toList, ¬ IsSeparator c) :
    integer? (stripWith isNumberBlank content.toList) = integerOf? content := by
  ext number
  rw [integer?_stripWith_eq_some_iff isBlank_of_isNumberBlank, integerOf?_eq_some_iff]
  constructor
  · rintro ⟨front, body, back, split, around, read⟩
    exact ⟨front, body, back, split,
      fun c member => isBlank_of_isNumberBlank c (around c member), read⟩
  · rintro ⟨front, body, back, split, around, read⟩
    obtain ⟨nonempty, within⟩ := isBlank_of_integer? read
    rw [split, margins_append nonempty within around] at clear
    refine ⟨front, body, back, split, fun c member => ?_, read⟩
    exact (isNumberBlank_iff c).mpr ⟨around c member, clear c member⟩

/-- A setting is read as an integer, and its text counts as that integer unless it is negative. -/
def ReadsAlike (world : World) (name content : String) : Prop :=
  ∃ number, (getInteger (.text name) (.int 0)).runFrom world = (.ok (.int number), world) ∧
    ((Value.text content).toCount : Int) = max 0 number

/-- A setting is read as an integer without a fault.  If no separator is in the margins of its text,
the text counts as this integer; otherwise it counts as zero. -/
theorem integers_agree
    {world : World}
    (loaded : world.settings.loaded)
    {name content : String}
    (set : world.valueOf? name = some content) :
    (∀ default, ∃ result, (getInteger (.text name) default).runFrom world = (.ok result, world)) ∧
      ((∀ c ∈ margins content.toList, ¬ IsSeparator c) → ReadsAlike world name content) ∧
        ((∃ c ∈ margins content.toList, IsSeparator c) → (Value.text content).toCount = 0) := by
  refine ⟨fun default => ⟨_, runFrom_getInteger_of_loaded loaded name default⟩,
    fun clear => ⟨(integerOf? content).getD 0, ?_, ?_⟩, fun separated => ?_⟩
  · rw [runFrom_getInteger_of_loaded loaded, set]
    cases known : integerOf? content <;> simp [known]
  · rw [Value.toCount_text, integer?_eq_integerOf? clear]
    cases integerOf? content with
    | none => rfl
    | some number => simp [max_comm]
  · rw [Value.toCount_text, integer?_eq_none_of_separator separated]
    rfl

/-- A world whose settings have been loaded, with one variable. -/
def holding (content : String) : World where
  clock := ⟨2026, 1, 2, 3, 4, 5⟩
  directory := "/home"
  environment := [("SIZE", content)]
  tree := {}
  settings := { loaded := true }

/-- A numeral with an underscore and digits of two scripts is the same number for both readings, also
with white space outside ASCII before it. -/
theorem integers_agree_grouped :
    ReadsAlike (holding "\u2003+1_2\u0663\n") "SIZE" "\u2003+1_2\u0663\n" ∧
      (Value.text "\u2003+1_2\u0663\n").toCount = 123 := by
  refine ⟨(integers_agree ?_ ?_).2.1 ?_, ?_⟩
  · rfl
  · rfl
  · have around : margins "\u2003+1_2\u0663\n".toList = ['\u2003', '\n'] := by decide +kernel
    rw [around]
    simp [IsSeparator]
  · decide +kernel

/-- A separator before a numeral is white space for a setting and none for a count. -/
theorem not_readsAlike_of_separator :
    (holding "\x1c5").settings.loaded ∧ (holding "\x1c5").valueOf? "SIZE" = some "\x1c5" ∧
      ¬ ReadsAlike (holding "\x1c5") "SIZE" "\x1c5" := by
  refine ⟨rfl, rfl, ?_⟩
  rintro ⟨number, read, counted⟩
  rw [runFrom_getInteger_of_loaded rfl] at read
  have five : number = 5 := by
    have value : (((holding "\x1c5").valueOf? "SIZE").bind integerOf?) = some 5 := by decide +kernel
    simpa [value, eq_comm] using read
  have zero : (Value.text "\x1c5").toCount = 0 := by decide +kernel
  rw [five, zero] at counted
  exact absurd counted (by decide)

end Settings
end TableQuery
