import Mathlib.Data.List.Infix
import Statute.Text.Search

/-!
# Substitution

Several patterns replaced throughout a text at once. The text is cut from the left into places of
the patterns and the characters between them, and then every place gets its content: what is put in
is not looked at again. Replacing one pattern after the other looks again at what it has put in. It
comes to the same when no place of a later pattern reaches into a content.
-/

namespace Statute.Text

/-- What a text is made of: places of patterns, and the characters that belong to none. -/
inductive Segment (κ : Type) where
  | character (value : Char)
  | place (key : κ)
deriving DecidableEq

variable {κ : Type}

/-- A segment with contents put in the places. -/
def Segment.filled (content : κ → List Char) : Segment κ → List Char
  | character value => [value]
  | place key => content key

section Definitions

variable (keys : List κ) (pattern : κ → List Char)

/-- The segments of a text with `pending` characters of a place still to be passed over. Where
several patterns begin, the first one counts. -/
def segmentsFrom : Nat → List Char → List (Segment κ)
  | _, [] => []
  | pending + 1, _ :: rest => segmentsFrom pending rest
  | 0, character :: rest =>
    match keys.find? fun key => (pattern key).isPrefixOf (character :: rest) with
    | some key => .place key :: segmentsFrom ((pattern key).length - 1) rest
    | none => .character character :: segmentsFrom 0 rest

/-- The segments of a text. -/
def segments (text : List Char) : List (Segment κ) :=
  segmentsFrom keys pattern 0 text

/-- A text with contents put in all places of the patterns at once. -/
def substitute (content : κ → List Char) (text : List Char) : List Char :=
  (segments keys pattern text).flatMap (Segment.filled content)

/-- Patterns are not empty, and none of them begins with another one. -/
structure ToldApart : Prop where
  nonempty : ∀ key ∈ keys, pattern key ≠ []
  unique : ∀ key ∈ keys, ∀ other ∈ keys, pattern key <+: pattern other → key = other

end Definitions

/-- No place of a pattern begins in a word, whatever follows the word. -/
def Clear (pattern word : List Char) : Prop :=
  ∀ tail, tail ≠ [] → tail <:+ word → ¬ tail <+: pattern ∧ ¬ pattern <+: tail

instance : DecidableRel Clear := fun pattern word =>
  decidable_of_iff
    (∀ tail ∈ word.tails, tail ≠ [] → ¬ tail <+: pattern ∧ ¬ pattern <+: tail) <| by
    simp only [List.mem_tails, Clear]
    exact forall_congr' fun tail => Imp.swap

/-! ## Words that no place begins in -/

section Clear

variable {pattern word : List Char} {character : Char}

/-- No place begins at the front of a clear word, be it with what follows. -/
theorem Clear.not_isPrefix (clear : Clear pattern word) (nonempty : word ≠ []) (rest : List Char) :
    ¬ pattern <+: word ++ rest := by
  intro begins
  obtain ⟨notInside, notBehind⟩ := clear word nonempty List.suffix_rfl
  rcases List.prefix_or_prefix_of_prefix begins (List.prefix_append word rest) with inside | beyond
  · exact notBehind inside
  · exact notInside beyond

/-- The rest of a clear word is clear. -/
theorem Clear.of_cons (clear : Clear pattern (character :: word)) : Clear pattern word := by
  intro tail nonempty ends
  exact clear tail nonempty (ends.trans (List.suffix_cons character word))

/-- A word whose last character is not in the pattern is clear when the pattern does not stand in
it. -/
theorem clear_of_last (absent : ¬ pattern <:+: word)
    (last : ∀ character ∈ word.getLast?, character ∉ pattern) : Clear pattern word := by
  intro tail nonempty ends
  constructor
  · intro begun
    obtain ⟨front, character, rfl⟩ := List.eq_nil_or_concat tail |>.resolve_left nonempty
    obtain ⟨before, rfl⟩ := ends
    refine last character ?_ (begun.subset ?_) <;> simp
  · intro whole
    exact absent (whole.isInfix.trans ends.isInfix)

end Clear

/-! ## Equations of substitution -/

variable {keys : List κ} {pattern content : κ → List Char}

@[simp] theorem segments_nil : segments keys pattern [] = [] := by
  simp [segments, segmentsFrom]

@[simp] theorem substitute_nil : substitute keys pattern content [] = [] := by
  simp [substitute]

/-- Characters that are still to be passed over leave no trace. -/
theorem segmentsFrom_append (passed rest : List Char) :
    segmentsFrom keys pattern passed.length (passed ++ rest) = segments keys pattern rest := by
  induction passed with
  | nil => simp [segments]
  | cons character passed inductionHypothesis =>
    simpa [segmentsFrom] using inductionHypothesis

/-- A character where no pattern begins is a segment of its own. -/
theorem segments_character {character : Char} {rest : List Char}
    (nothing : ∀ key ∈ keys, ¬ pattern key <+: character :: rest) :
    segments keys pattern (character :: rest) =
      .character character :: segments keys pattern rest := by
  have finds : (keys.find? fun key => (pattern key).isPrefixOf (character :: rest)) = none := by
    simpa using nothing
  simp [segments, segmentsFrom, finds]

/-- A place begins where its pattern does. -/
theorem segments_place (apart : ToldApart keys pattern) {key : κ} (member : key ∈ keys)
    (rest : List Char) :
    segments keys pattern (pattern key ++ rest) = .place key :: segments keys pattern rest := by
  obtain ⟨first, others, isPattern⟩ := List.exists_cons_of_ne_nil (apart.nonempty key member)
  have finds : (keys.find? fun other => (pattern other).isPrefixOf (pattern key ++ rest)) =
      some key := by
    cases found : keys.find? fun other => (pattern other).isPrefixOf (pattern key ++ rest) with
    | none => simpa using List.find?_eq_none.mp found key member
    | some other =>
      have otherMember := List.mem_of_find?_eq_some found
      have begins : pattern other <+: pattern key ++ rest := by
        simpa using List.find?_some found
      rcases List.prefix_or_prefix_of_prefix begins (List.prefix_append _ rest) with
        shorter | longer
      · rw [apart.unique other otherMember key member shorter]
      · rw [apart.unique key member other otherMember longer]
  rw [isPattern, List.cons_append] at finds
  rw [isPattern, List.cons_append, segments, segmentsFrom, finds]
  simp [isPattern, segmentsFrom_append]

/-- A character with which no place begins is kept. -/
theorem substitute_character {character : Char} {rest : List Char}
    (nothing : ∀ key ∈ keys, ¬ pattern key <+: character :: rest) :
    substitute keys pattern content (character :: rest) =
      character :: substitute keys pattern content rest := by
  simp [substitute, segments_character nothing, Segment.filled]

/-- A place gets its content, and what follows is substituted on its own. -/
theorem substitute_place (apart : ToldApart keys pattern) {key : κ} (member : key ∈ keys)
    (rest : List Char) :
    substitute keys pattern content (pattern key ++ rest) =
      content key ++ substitute keys pattern content rest := by
  simp [substitute, segments_place apart member, Segment.filled]

/-- What holds of the empty text, and of a text when it holds behind the place or the character at
its beginning, holds of all texts. -/
theorem induction_on_places (apart : ToldApart keys pattern) {motive : List Char → Prop}
    (nil : motive [])
    (place : ∀ key ∈ keys, ∀ rest, motive rest → motive (pattern key ++ rest))
    (character : ∀ value rest, (∀ key ∈ keys, ¬ pattern key <+: value :: rest) → motive rest →
      motive (value :: rest))
    (text : List Char) : motive text := by
  induction size : text.length using Nat.strong_induction_on generalizing text with
  | h size inductionHypothesis =>
    cases text with
    | nil => exact nil
    | cons value rest =>
      by_cases begins : ∃ key ∈ keys, pattern key <+: value :: rest
      · obtain ⟨key, member, behind, whole⟩ := begins
        have positive := List.length_pos_of_ne_nil (apart.nonempty key member)
        have shorter := congrArg List.length whole
        rw [List.length_append] at shorter
        rw [← whole]
        exact place key member behind (inductionHypothesis behind.length (by omega) behind rfl)
      · push Not at begins
        apply character value rest begins
        exact inductionHypothesis rest.length (by simp [← size]) rest rfl

/-- Words that no place begins in stay as they are. -/
theorem substitute_append_of_clear {word : List Char}
    (clear : ∀ key ∈ keys, Clear (pattern key) word) (rest : List Char) :
    substitute keys pattern content (word ++ rest) =
      word ++ substitute keys pattern content rest := by
  induction word with
  | nil => simp
  | cons character word inductionHypothesis =>
    have nothing : ∀ key ∈ keys, ¬ pattern key <+: character :: (word ++ rest) :=
      fun key member => (clear key member).not_isPrefix (by simp) rest
    rw [List.cons_append, substitute_character nothing,
      inductionHypothesis fun key member => (clear key member).of_cons, List.cons_append]

/-- A text without places stays as it is. -/
theorem substitute_eq_self {text : List Char}
    (absent : ∀ key ∈ keys, ¬ pattern key <:+: text) :
    substitute keys pattern content text = text := by
  induction text with
  | nil => simp
  | cons character text inductionHypothesis =>
    have nothing : ∀ key ∈ keys, ¬ pattern key <+: character :: text :=
      fun key member begins => absent key member begins.isInfix
    rw [substitute_character nothing, inductionHypothesis]
    intro key member present
    exact absent key member (present.trans (List.suffix_cons character text).isInfix)

/-- A pattern that begins in front of a character which it lacks ends in front of it. -/
theorem isPrefix_append_cons_iff {word : List Char} {separator : Char} (lacks : separator ∉ word)
    {text rest : List Char} : word <+: text ++ separator :: rest ↔ word <+: text := by
  constructor
  · intro begins
    rcases List.prefix_or_prefix_of_prefix begins (List.prefix_append text _) with
      inside | ⟨beyond, rfl⟩
    · exact inside
    · rw [List.prefix_append_right_inj] at begins
      cases beyond with
      | nil => simp
      | cons character beyond =>
        have same := (List.cons_prefix_cons.mp begins).1
        simp [same] at lacks
  · intro inside
    exact inside.trans (List.prefix_append text _)

/-- A character that no pattern has separates a text: no place reaches across it. -/
theorem substitute_append_cons (apart : ToldApart keys pattern) {separator : Char}
    (separates : ∀ key ∈ keys, separator ∉ pattern key) (text rest : List Char) :
    substitute keys pattern content (text ++ separator :: rest) =
      substitute keys pattern content text ++
        separator :: substitute keys pattern content rest := by
  induction text using induction_on_places apart with
  | nil =>
    have nothing : ∀ key ∈ keys, ¬ pattern key <+: [] ++ separator :: rest := by
      intro key member
      rw [isPrefix_append_cons_iff (separates key member), List.prefix_nil]
      exact apart.nonempty key member
    rw [List.nil_append] at nothing ⊢
    rw [substitute_character nothing, substitute_nil, List.nil_append]
  | place key member text inductionHypothesis =>
    simp only [List.append_assoc, substitute_place apart member, inductionHypothesis]
  | character value text nothing inductionHypothesis =>
    have stillNothing : ∀ key ∈ keys, ¬ pattern key <+: value :: text ++ separator :: rest := by
      intro key member
      rw [isPrefix_append_cons_iff (separates key member)]
      exact nothing key member
    rw [List.cons_append] at stillNothing ⊢
    rw [substitute_character stillNothing, substitute_character nothing, inductionHypothesis,
      List.cons_append]

/-- A text has places exactly when one of the patterns stands in it. -/
theorem exists_place_iff (apart : ToldApart keys pattern) {text : List Char} :
    (∃ key ∈ keys, .place key ∈ segments keys pattern text) ↔
      ∃ key ∈ keys, pattern key <:+: text := by
  constructor
  · rintro ⟨key, member, present⟩
    refine ⟨key, member, ?_⟩
    induction text using induction_on_places apart with
    | nil => simp at present
    | place other otherMember rest inductionHypothesis =>
      rw [segments_place apart otherMember, List.mem_cons] at present
      rcases present with same | later
      · cases same
        exact (List.prefix_append _ rest).isInfix
      · exact (inductionHypothesis later).trans (List.suffix_append _ rest).isInfix
    | character value rest nothing inductionHypothesis =>
      rw [segments_character nothing, List.mem_cons] at present
      have later := present.resolve_left (by simp)
      exact (inductionHypothesis later).trans (List.suffix_cons value rest).isInfix
  · rintro ⟨key, member, present⟩
    induction text using induction_on_places apart with
    | nil => exact absurd (List.infix_nil.mp present) (apart.nonempty key member)
    | place other otherMember rest _ =>
      exact ⟨other, otherMember, by simp [segments_place apart otherMember]⟩
    | character value rest nothing inductionHypothesis =>
      have later := (List.infix_cons_iff.mp present).resolve_left (nothing key member)
      obtain ⟨found, foundMember, inRest⟩ := inductionHypothesis later
      exact ⟨found, foundMember, by simp [segments_character nothing, inRest]⟩

/-! ## One pattern after the other -/

/-- One of several patterns that are told apart is so alone. -/
theorem ToldApart.of_mem (apart : ToldApart keys pattern) {key : κ} (member : key ∈ keys) :
    ToldApart [key] pattern where
  nonempty := by simpa using apart.nonempty key member
  unique := by simp

/-- Replacing one pattern throughout is a substitution for it. -/
theorem replaceAll_eq_substitute {key : κ} (nonempty : pattern key ≠ []) (text : List Char) :
    replaceAll (pattern key) (content key) text = substitute [key] pattern content text := by
  have isNotEmpty : (pattern key).isEmpty = false := by simpa using nonempty
  suffices ∀ pending, replaceFrom (pattern key) (content key) pending text =
      (segmentsFrom [key] pattern pending text).flatMap (Segment.filled content) from this 0
  induction text with
  | nil => simp [replaceFrom, segmentsFrom]
  | cons character rest inductionHypothesis =>
    intro pending
    cases pending with
    | succ pending => simpa [replaceFrom, segmentsFrom] using inductionHypothesis pending
    | zero =>
      by_cases begins : (pattern key).isPrefixOf (character :: rest)
      · simp [replaceFrom, segmentsFrom, begins, isNotEmpty, Segment.filled, inductionHypothesis]
      · simp [replaceFrom, segmentsFrom, begins, Segment.filled, inductionHypothesis]

/-- A word that begins a text after a replacement began it before, when it does not have the
character that the replacement begins with. -/
theorem isPrefix_of_isPrefix_substitute {key : κ} (apart : ToldApart [key] pattern) {first : Char}
    {others : List Char} (isContent : content key = first :: others) {word text : List Char}
    (lacks : first ∉ word) (begins : word <+: substitute [key] pattern content text) :
    word <+: text := by
  induction text using induction_on_places apart generalizing word with
  | nil => simpa using begins
  | place other member rest _ =>
    obtain rfl := List.mem_singleton.mp member
    cases word with
    | nil => exact List.nil_prefix
    | cons character word =>
      rw [substitute_place apart member, isContent, List.cons_append, List.cons_prefix_cons] at begins
      exact absurd (by simp [begins.1]) lacks
  | character value rest nothing inductionHypothesis =>
    cases word with
    | nil => exact List.nil_prefix
    | cons character word =>
      rw [substitute_character nothing, List.cons_prefix_cons] at begins
      rw [List.cons_prefix_cons]
      exact ⟨begins.1, inductionHypothesis (fun present => lacks (by simp [present])) begins.2⟩

/-- Two patterns replaced one after the other are replaced at once when no place of the second
pattern reaches into what is put in for the first, and none of the first into the second pattern. -/
theorem substitute_substitute {first second : κ} (apart : ToldApart [first, second] pattern)
    (clearPattern : Clear (pattern first) (pattern second))
    (clearContent : Clear (pattern second) (content first))
    {character : Char} {others : List Char} (isContent : content first = character :: others)
    (lacks : character ∉ pattern second) (text : List Char) :
    substitute [second] pattern content (substitute [first] pattern content text) =
      substitute [first, second] pattern content text := by
  have firstAlone := apart.of_mem (List.mem_cons_self : first ∈ [first, second])
  have secondAlone := apart.of_mem (by simp : second ∈ [first, second])
  induction text using induction_on_places apart with
  | nil => simp
  | place key member rest inductionHypothesis =>
    rw [substitute_place apart member, ← inductionHypothesis]
    rcases List.mem_pair.mp member with rfl | rfl
    · rw [substitute_place firstAlone List.mem_cons_self]
      exact substitute_append_of_clear (by simpa using clearContent) _
    · rw [substitute_append_of_clear (by simpa using clearPattern),
        substitute_place secondAlone List.mem_cons_self]
  | character value rest nothing inductionHypothesis =>
    have notFirst : ∀ key ∈ [first], ¬ pattern key <+: value :: rest := by
      simpa using nothing first (by simp)
    have notSecond : ∀ key ∈ [second],
        ¬ pattern key <+: value :: substitute [first] pattern content rest := by
      rw [List.forall_mem_singleton]
      intro begins
      -- What is put in cannot complete a place that was not there before.
      obtain ⟨head, tail, isPattern⟩ := List.exists_cons_of_ne_nil (apart.nonempty second (by simp))
      rw [isPattern, List.cons_prefix_cons] at begins
      have lacksTail : character ∉ tail := fun present => lacks (by simp [isPattern, present])
      have before := isPrefix_of_isPrefix_substitute firstAlone isContent lacksTail begins.2
      apply nothing second (by simp)
      rw [isPattern, List.cons_prefix_cons]
      exact ⟨begins.1, before⟩
    rw [substitute_character notFirst, substitute_character notSecond,
      substitute_character nothing, inductionHypothesis]

end Statute.Text
