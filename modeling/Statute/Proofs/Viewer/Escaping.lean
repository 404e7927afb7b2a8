import Statute.Proofs.Entries
import Statute.Proofs.Text.Substitution
import Statute.Viewer.Page

/-!
# Escaping is undone

A title is escaped by five replacements, each of the whole text that the one before has left. None
of them touches what an earlier one has written, so that together they replace every character on
its own. What they write can be told apart from everything else, and is read back from left to
right.
-/

namespace Statute.Viewer

open Text

/-! ## Characters replaced one kind after the other -/

/-- What is written for a character when a table says what is written for some characters. -/
def writtenWith (table : List (Char × String)) (character : Char) : List Char :=
  match table.lookup character with
  | some entity => entity.toList
  | none => [character]

/-- Each character of a table has its entity written, every other one itself. -/
theorem writtenWith_cases (table : List (Char × String)) (character : Char) :
    (∃ entry ∈ table, entry.1 = character ∧ writtenWith table character = entry.2.toList) ∨
      (∀ entry ∈ table, entry.1 ≠ character) ∧ writtenWith table character = [character] := by
  cases found : table.lookup character with
  | some entity =>
    left
    obtain ⟨before, behind, rfl, -⟩ := List.lookup_eq_some_iff.mp found
    exact ⟨(character, entity), by simp, rfl, by simp [writtenWith, found]⟩
  | none =>
    right
    constructor
    · intro entry member same
      have differs := List.lookup_eq_none_iff.mp found entry member
      simp [same] at differs
    · simp [writtenWith, found]

/-- What is written for a character is decided by the first entry of the table, or else by the
others. -/
theorem writtenWith_cons (special : Char) (entity : String) (table : List (Char × String))
    (character : Char) :
    writtenWith ((special, entity) :: table) character =
      if character = special then entity.toList else writtenWith table character := by
  rw [writtenWith, lookup_cons_eq_ite]
  by_cases same : character = special <;> simp [same, writtenWith]

/-- Replacing a single character replaces each of its occurrences on its own. -/
theorem replaceAll_character (character : Char) (replacement text : List Char) :
    replaceAll [character] replacement text =
      text.flatMap fun other => if other = character then replacement else [other] := by
  induction text with
  | nil => rfl
  | cons other text inductionHypothesis =>
    rw [replaceAll] at inductionHypothesis
    by_cases same : other = character
    · simp [replaceAll, replaceFrom, same, inductionHypothesis]
    · simp [replaceAll, replaceFrom, same, Ne.symm same, inductionHypothesis]

/-- A text without the characters of a table is written as it is. -/
theorem flatMap_writtenWith_eq_self {table : List (Char × String)} {text : List Char}
    (absent : ∀ entry ∈ table, entry.1 ∉ text) : text.flatMap (writtenWith table) = text := by
  induction text with
  | nil => rfl
  | cons character text inductionHypothesis =>
    have rest := inductionHypothesis fun entry member present =>
      absent entry member (List.mem_cons_of_mem _ present)
    rcases writtenWith_cases table character with ⟨entry, member, same, -⟩ | ⟨-, itself⟩
    · exact absurd (same ▸ List.mem_cons_self) (absent entry member)
    · rw [List.flatMap_cons, itself, rest, List.singleton_append]

/-- Replacing the characters of a table one kind after the other replaces every character on its
own, when no entity has a character that is replaced after it. -/
theorem foldl_replaceAll_eq_flatMap {table : List (Char × String)}
    (inOrder : table.Pairwise fun entry later => later.1 ∉ entry.2.toList) (text : List Char) :
    table.foldl (fun text (character, entity) => replaceAll [character] entity.toList text) text =
      text.flatMap (writtenWith table) := by
  induction table generalizing text with
  | nil => exact (flatMap_writtenWith_eq_self (by simp)).symm
  | cons first table inductionHypothesis =>
    obtain ⟨special, entity⟩ := first
    obtain ⟨untouched, inOrderLater⟩ := List.pairwise_cons.mp inOrder
    rw [List.foldl_cons, inductionHypothesis inOrderLater]
    simp only [replaceAll_character, List.flatMap_assoc]
    congr 1
    funext character
    rw [writtenWith_cons]
    by_cases same : character = special
    · rw [if_pos same, if_pos same, flatMap_writtenWith_eq_self untouched]
    · rw [if_neg same, if_neg same, List.flatMap_singleton]

/-! ## Entities -/

/-- What is written for a character of a title. -/
def written : Char → List Char :=
  writtenWith entities

/-- An escaped text read back: from left to right, every entity as the character that it stands
for, everything else as it is. -/
def unescape (text : List Char) : List Char :=
  substitute entities (fun entry => entry.2.toList) (fun entry => [entry.1]) text

/-- Entities begin with an ampersand, have no other one, and are told apart by what follows it. -/
theorem entity_shape {entry : Char × String} (member : entry ∈ entities) :
    ∃ name, entry.2.toList = '&' :: name ∧ '&' ∉ name := by
  simp only [entities, List.mem_cons, List.not_mem_nil, or_false] at member
  rcases member with rfl | rfl | rfl | rfl | rfl <;> exact ⟨_, rfl, by decide⟩

/-- No entity begins with another one, so that they are told apart from left to right. -/
theorem toldApart_entities : ToldApart entities fun entry => entry.2.toList where
  nonempty entry member := by
    obtain ⟨name, shape, -⟩ := entity_shape member
    simp [shape]
  unique := by decide

/-- A text is escaped character by character, although it is replaced one kind after the other: the
ampersands go first, and no entity has a character that is replaced after it. -/
theorem escape_eq_flatMap (text : List Char) : escape text = text.flatMap written :=
  foldl_replaceAll_eq_flatMap (by decide) text

/-- Two texts are escaped each on its own. -/
theorem escape_append (left right : List Char) :
    escape (left ++ right) = escape left ++ escape right := by
  simp [escape_eq_flatMap]

/-- A text is escaped from its first character on. -/
theorem escape_cons (character : Char) (text : List Char) :
    escape (character :: text) = written character ++ escape text := by
  simp [escape_eq_flatMap]

/-- No entity begins at a character that is no ampersand. -/
theorem not_entity_of_ne {character : Char} (differs : character ≠ '&') (rest : List Char) :
    ∀ entry ∈ entities, ¬ entry.2.toList <+: character :: rest := by
  intro entry member begins
  obtain ⟨name, shape, -⟩ := entity_shape member
  rw [shape, List.cons_prefix_cons] at begins
  exact differs begins.1.symm

/-- A character that is written as itself has no entity. The ampersand is not among these. -/
theorem ne_of_not_special {character : Char}
    (other : ∀ entry ∈ entities, entry.1 ≠ character) :
    character ≠ '&' ∧ character ∉ ['<', '>', '"', '\''] := by
  simp only [entities, List.forall_mem_cons] at other
  grind

/-- What was escaped is read back. An ampersand is written only as the beginning of an entity, so
none begins elsewhere. -/
theorem unescape_escape (text : List Char) : unescape (escape text) = text := by
  induction text with
  | nil => rfl
  | cons character text inductionHypothesis =>
    rw [unescape] at inductionHypothesis
    rw [escape_cons, unescape, written]
    rcases writtenWith_cases entities character with ⟨entry, member, rfl, same⟩ | ⟨other, same⟩
    · rw [same, substitute_place toldApart_entities member, inductionHypothesis]
      rfl
    · obtain ⟨noAmpersand, -⟩ := ne_of_not_special other
      rw [same, List.singleton_append, substitute_character (not_entity_of_ne noAmpersand _),
        inductionHypothesis]

/-- No character of markup is left but the ampersands of entities. -/
theorem not_mem_escape {character : Char} (special : character ∈ ['<', '>', '"', '\''])
    (text : List Char) : character ∉ escape text := by
  rw [escape_eq_flatMap, List.mem_flatMap]
  rintro ⟨source, -, present⟩
  rw [written] at present
  rcases writtenWith_cases entities source with ⟨entry, member, -, same⟩ | ⟨other, same⟩
  · have absent : ∀ entry ∈ entities,
        entry.2.toList.all (fun letter => letter ∉ ['<', '>', '"', '\'']) = true := by decide
    have plain := List.all_eq_true.mp (absent entry member) character (same ▸ present)
    exact of_decide_eq_true plain special
  · rw [same, List.mem_singleton] at present
    exact (ne_of_not_special other).2 (present ▸ special)

/-- What stands behind a word up to a character that the word does not have. -/
theorem exists_of_append_eq_append_cons {word rest before behind : List Char} {character : Char}
    (lacks : character ∉ word) (same : word ++ rest = before ++ character :: behind) :
    ∃ others, before = word ++ others ∧ rest = others ++ character :: behind := by
  rcases List.append_eq_append_iff.mp same with ⟨others, whole, remaining⟩ | ⟨others, whole, -⟩
  · exact ⟨others, whole, remaining⟩
  · cases others with
    | nil => exact ⟨[], by simpa using whole.symm, by simp_all⟩
    | cons first others =>
      simp_all

/-- Every ampersand of an escaped text begins an entity. -/
theorem exists_entity_of_ampersand {text before behind : List Char}
    (whole : escape text = before ++ '&' :: behind) :
    ∃ entry ∈ entities, entry.2.toList <+: '&' :: behind := by
  induction text generalizing before with
  | nil =>
    have nothing : ([] : List Char) = before ++ '&' :: behind := whole
    simp at nothing
  | cons character text inductionHypothesis =>
    rw [escape_cons, written] at whole
    rcases writtenWith_cases entities character with ⟨entry, member, -, same⟩ | ⟨other, same⟩
    · -- The only ampersand of an entity is its first character.
      obtain ⟨name, shape, lacks⟩ := entity_shape member
      rw [same] at whole
      cases before with
      | nil => exact ⟨entry, member, escape text, whole⟩
      | cons first before =>
        rw [shape, List.cons_append, List.cons_append] at whole
        obtain ⟨others, -, rest⟩ := exists_of_append_eq_append_cons lacks (List.cons.inj whole).2
        exact inductionHypothesis rest
    · have lacks : '&' ∉ [character] := by simpa using (ne_of_not_special other).1.symm
      obtain ⟨others, -, rest⟩ := exists_of_append_eq_append_cons lacks (same ▸ whole)
      exact inductionHypothesis rest

/-- Escaping is a faithful encoding. Replacing the special characters one kind after the other
replaces every character on its own. The escaped text has no special character but ampersands, of
which each begins an entity, and reading the entities from left to right gives the text back. So
texts that are escaped alike are alike, whether or not they had entities in them. -/
theorem escape_is_faithful (text : List Char) :
    escape text = text.flatMap written ∧
      (∀ character ∈ ['<', '>', '"', '\''], character ∉ escape text) ∧
      (∀ before behind, escape text = before ++ '&' :: behind →
        ∃ entry ∈ entities, entry.2.toList <+: '&' :: behind) ∧
      unescape (escape text) = text ∧
      ∀ other, escape other = escape text → other = text := by
  refine ⟨escape_eq_flatMap text, fun _ special => not_mem_escape special text,
    fun _ _ => exists_entity_of_ampersand, unescape_escape text, ?_⟩
  intro other same
  rw [← unescape_escape other, same, unescape_escape]

/-- A text that has an entity, a special character and an ampersand of its own. -/
theorem exampleEntities_faithful :
    escape "&lt; <&".toList = "&amp;lt; &lt;&amp;".toList ∧
      '<' ∉ escape "&lt; <&".toList ∧
      (∃ entry ∈ entities, entry.2.toList <+: "&lt;&amp;".toList) ∧
      unescape "&amp;lt; &lt;&amp;".toList = "&lt; <&".toList := by
  obtain ⟨independent, clean, entity, undone, -⟩ := escape_is_faithful "&lt; <&".toList
  have escapes : escape "&lt; <&".toList = "&amp;lt; &lt;&amp;".toList := by
    rw [independent]
    decide
  refine ⟨escapes, clean '<' (by simp), ?_, escapes ▸ undone⟩
  exact entity "&amp;lt; ".toList "lt;&amp;".toList (escapes.trans (by decide))

end Statute.Viewer
