import Statute.Proofs.Viewer.Escaping

/-!
# Slots of the page

The slots of the page are filled one kind after the other, and what was put in for the title is
looked at again when the slots for the style sheet and the script are filled. A title that has the
text of such a slot in it gets the style sheet or the script there, with all their markup. With any
other title the page is its template with all slots filled at once. What stands outside of the slots
for the title is the same for all titles.
-/

namespace Statute.Viewer

open Text

/-- The slots of the page. -/
inductive Slot where
  | title
  | style
  | script
deriving DecidableEq

namespace Slot

/-- All slots. -/
def all : List Slot :=
  [title, style, script]

/-- How a slot is written. -/
def text : Slot → List Char
  | title => titleSlot.toList
  | style => styleSlot.toList
  | script => scriptSlot.toList

/-- What belongs in a slot of the page for a title. -/
def content (inTitle : List Char) : Slot → List Char
  | title => inTitle
  | style => styleSheet.toList
  | script => Viewer.script.toList

end Slot

/-- The template with all slots filled at once. -/
def filledTemplate (inTitle : List Char) : List Char :=
  substitute Slot.all Slot.text (Slot.content inTitle) template.toList

/-- A title in which the slots for the style sheet and the script are filled at once. -/
def filledTitle (title : List Char) : List Char :=
  substitute [Slot.style, Slot.script] Slot.text (Slot.content title) title

/-! ## Slots and their contents -/

/-- Every slot is one of all slots. -/
theorem mem_all (slot : Slot) : slot ∈ Slot.all := by
  cases slot <;> decide

/-- No slot is written like the beginning of another one. -/
theorem toldApart_slots : ToldApart Slot.all Slot.text where
  nonempty := by decide
  unique := by decide

/-- One slot alone is told apart. -/
theorem toldApart_slot (slot : Slot) : ToldApart [slot] Slot.text :=
  toldApart_slots.of_mem (mem_all slot)

/-- The slots for the style sheet and the script are told apart. -/
theorem toldApart_otherSlots : ToldApart [Slot.style, Slot.script] Slot.text where
  nonempty slot _ := toldApart_slots.nonempty slot (mem_all slot)
  unique slot _ other _ := toldApart_slots.unique slot (mem_all slot) other (mem_all other)

/-- Slots begin with braces. -/
theorem slot_shape (slot : Slot) : ∃ others, slot.text = '\x7b' :: others := by
  cases slot <;> exact ⟨_, rfl⟩

/-- No slot reaches into another one. -/
theorem clear_slot {slot other : Slot} (differs : slot ≠ other) : Clear slot.text other.text := by
  revert differs
  cases slot <;> cases other <;> decide

/-- The style sheet does not begin with a brace. -/
theorem styleSheet_shape : ∃ others, styleSheet.toList = '*' :: others := by
  rw [styleSheet, String.toList_ofList]
  exact ⟨_, rfl⟩

/-- The slot for the script neither stands in the style sheet nor begins at its end. -/
theorem clear_styleSheet : Clear Slot.script.text styleSheet.toList := by
  have absent : 'T' ∉ styleSheet.toList := by
    rw [styleSheet, String.toList_ofList]
    decide +kernel
  have last : styleSheet.toList.getLast? = some '\n' := by
    rw [styleSheet, String.toList_ofList]
    decide +kernel
  apply clear_of_last
  · intro present
    exact absent (present.subset (by decide))
  · rw [last]
    rintro _ ⟨⟩
    decide

/-- The style sheet and the script have quotation marks in them. -/
theorem quote_mem_content {slot : Slot} (member : slot ∈ [Slot.style, Slot.script])
    (inTitle : List Char) : '"' ∈ slot.content inTitle := by
  rcases List.mem_pair.mp member with rfl | rfl
  · rw [Slot.content, styleSheet, String.toList_ofList]
    decide +kernel
  · rw [Slot.content, script, String.toList_ofList]
    exact List.mem_cons_self

/-! ## Slots filled one kind after the other -/

/-- A text with the slots for the title filled first, then those for the style sheet, and those for
the script last. -/
def filledInOrder (inTitle text : List Char) : List Char :=
  substitute [Slot.script] Slot.text (Slot.content inTitle)
    (substitute [Slot.style] Slot.text (Slot.content inTitle)
      (substitute [Slot.title] Slot.text (Slot.content inTitle) text))

/-- The page is filled in this order. -/
theorem toList_page (title : String) :
    (page title).toList = filledInOrder (escape title.toList) template.toList := by
  have fills (slot : Slot) (text : List Char) :
      replaceAll slot.text (slot.content (escape title.toList)) text =
        substitute [slot] Slot.text (Slot.content (escape title.toList)) text :=
    replaceAll_eq_substitute (toldApart_slots.nonempty slot (mem_all slot)) text
  rw [page, String.toList_ofList, filledInOrder, ← fills, ← fills, ← fills]
  rfl

variable {inTitle : List Char}

/-- In a title, too, it does not matter that the style sheet is put in first. -/
theorem filledTitle_eq (title : List Char) : substitute [Slot.script] Slot.text (Slot.content title)
    (substitute [Slot.style] Slot.text (Slot.content title) title) = filledTitle title := by
  obtain ⟨others, shape⟩ := styleSheet_shape
  have isContent : Slot.content title .style = '*' :: others := shape
  have clearContent : Clear Slot.script.text (Slot.content title .style) := clear_styleSheet
  exact substitute_substitute toldApart_otherSlots (clear_slot (by decide)) clearContent isContent
    (by decide) title

theorem filledInOrder_nil : filledInOrder inTitle [] = [] := by
  simp [filledInOrder]

/-- A character with which no slot begins is kept. -/
theorem filledInOrder_character {character : Char} (noBrace : character ≠ '\x7b')
    (rest : List Char) :
    filledInOrder inTitle (character :: rest) = character :: filledInOrder inTitle rest := by
  have kept (slot : Slot) (behind : List Char) :
      substitute [slot] Slot.text (Slot.content inTitle) (character :: behind) =
        character :: substitute [slot] Slot.text (Slot.content inTitle) behind := by
    obtain ⟨others, shape⟩ := slot_shape slot
    apply substitute_character
    simp [shape, List.cons_prefix_cons, Ne.symm noBrace]
  simp only [filledInOrder, kept]

/-- Slots for the style sheet get it, and it is kept when the slots for the script are filled. -/
theorem filledInOrder_style (rest : List Char) :
    filledInOrder inTitle (Slot.style.text ++ rest) =
      styleSheet.toList ++ filledInOrder inTitle rest := by
  have notTitle : Clear Slot.title.text Slot.style.text := clear_slot (by decide)
  have kept : ∀ slot ∈ [Slot.script], Clear slot.text styleSheet.toList := by
    simpa using clear_styleSheet
  rw [filledInOrder, substitute_append_of_clear (by simpa using notTitle),
    substitute_place (toldApart_slot .style) List.mem_cons_self, Slot.content,
    substitute_append_of_clear kept, filledInOrder]

/-- Slots for the script are kept until the last. -/
theorem filledInOrder_script (rest : List Char) :
    filledInOrder inTitle (Slot.script.text ++ rest) =
      script.toList ++ filledInOrder inTitle rest := by
  have notTitle : Clear Slot.title.text Slot.script.text := clear_slot (by decide)
  have notStyle : Clear Slot.style.text Slot.script.text := clear_slot (by decide)
  rw [filledInOrder, substitute_append_of_clear (by simpa using notTitle),
    substitute_append_of_clear (by simpa using notStyle),
    substitute_place (toldApart_slot .script) List.mem_cons_self]
  rfl

/-- In the slots for a title, those of the title itself are filled. A character that no slot has
keeps them apart from what follows. -/
theorem filledInOrder_title {separator : Char} (separates : ∀ slot : Slot, separator ∉ slot.text)
    (rest : List Char) :
    filledInOrder inTitle (Slot.title.text ++ separator :: rest) =
      filledTitle inTitle ++ filledInOrder inTitle (separator :: rest) := by
  have cut (slot : Slot) (text behind : List Char) :
      substitute [slot] Slot.text (Slot.content inTitle) (text ++ separator :: behind) =
        substitute [slot] Slot.text (Slot.content inTitle) text ++
          separator :: substitute [slot] Slot.text (Slot.content inTitle) behind :=
    substitute_append_cons (toldApart_slot slot) (fun other _ => separates other) text behind
  have noBrace : separator ≠ '\x7b' := by
    rintro rfl
    exact separates .title (by decide)
  have behindTitle := cut .title [] rest
  rw [List.nil_append, substitute_nil, List.nil_append] at behindTitle
  rw [filledInOrder_character noBrace, filledInOrder, filledInOrder,
    substitute_place (toldApart_slot .title) List.mem_cons_self, behindTitle, Slot.content, cut,
    cut, filledTitle_eq]

/-! ## The template -/

/-- The segments begin with a character that no slot has. -/
def beginsApart : List (Segment Slot) → Bool
  | .character separator :: _ => Slot.all.all fun slot => separator ∉ slot.text
  | _ => false

/-- Outside of the slots no character begins a slot, and behind each slot for a title stands a
character that no slot has. -/
def keptApart : List (Segment Slot) → Bool
  | [] => true
  | .place slot :: rest => (slot != .title || beginsApart rest) && keptApart rest
  | .character value :: rest => value != '\x7b' && keptApart rest

/-- Outside of its slots the template has no brace with which one could begin, and behind each slot
for the title stands a character that no slot has. -/
theorem keptApart_template : keptApart (segments Slot.all Slot.text template.toList) = true := by
  rw [template, String.toList_ofList]
  decide +kernel

/-- A text whose segments begin with a character that no slot has begins with this character. -/
theorem exists_of_beginsApart {text : List Char}
    (begins : beginsApart (segments Slot.all Slot.text text) = true) :
    ∃ separator rest, text = separator :: rest ∧ ∀ slot : Slot, separator ∉ slot.text := by
  induction text using induction_on_places toldApart_slots with
  | nil => simp [beginsApart] at begins
  | place slot member rest _ => simp [segments_place toldApart_slots member, beginsApart] at begins
  | character value rest nothing _ =>
    rw [segments_character nothing, beginsApart, List.all_eq_true] at begins
    exact ⟨value, rest, rfl, fun slot => by simpa using begins slot (mem_all slot)⟩

/-- Where slots are kept apart, filling them in order fills them at once, with a title whose own
slots are filled. -/
theorem filledInOrder_eq {text : List Char}
    (apart : keptApart (segments Slot.all Slot.text text) = true) :
    filledInOrder inTitle text =
      substitute Slot.all Slot.text (Slot.content (filledTitle inTitle)) text := by
  induction text using induction_on_places toldApart_slots with
  | nil => simp [filledInOrder_nil]
  | place slot member rest inductionHypothesis =>
    rw [segments_place toldApart_slots member, keptApart, Bool.and_eq_true] at apart
    obtain ⟨behind, apartLater⟩ := apart
    rw [substitute_place toldApart_slots member, ← inductionHypothesis apartLater]
    cases slot with
    | title =>
      -- The character behind the slot says that no slot begins in the title and ends behind it.
      obtain ⟨separator, others, rfl, separates⟩ := exists_of_beginsApart (by simpa using behind)
      rw [filledInOrder_title separates, Slot.content]
    | style => rw [filledInOrder_style, Slot.content]
    | script => rw [filledInOrder_script, Slot.content]
  | character value rest nothing inductionHypothesis =>
    rw [segments_character nothing, keptApart, Bool.and_eq_true, bne_iff_ne] at apart
    rw [filledInOrder_character apart.1, inductionHypothesis apart.2, substitute_character nothing]

/-- Segments without slots for the title are filled alike for all titles. -/
theorem flatMap_filled_eq {part : List (Segment Slot)} (lacks : .place .title ∉ part)
    (inTitle : List Char) : part.flatMap (Segment.filled (Slot.content inTitle)) =
      part.flatMap (Segment.filled (Slot.content [])) := by
  apply List.flatMap_congr
  intro segment member
  cases segment with
  | character value => rfl
  | place slot =>
    cases slot with
    | title => exact absurd member lacks
    | style => rfl
    | script => rfl

/-- The template has two slots for the title. -/
theorem exists_frame : ∃ front between behind, ∀ inTitle,
    filledTemplate inTitle = front ++ (inTitle ++ (between ++ (inTitle ++ behind))) := by
  have twice : (segments Slot.all Slot.text template.toList).count (.place .title) = 2 := by
    rw [template, String.toList_ofList]
    decide +kernel
  have first : .place .title ∈ segments Slot.all Slot.text template.toList :=
    List.count_pos_iff.mp (by omega)
  obtain ⟨front, others, whole, notFront⟩ := List.eq_append_cons_of_mem first
  rw [whole, List.count_append, List.count_cons_self, List.count_eq_zero.mpr notFront] at twice
  have second : .place .title ∈ others := List.count_pos_iff.mp (by omega)
  obtain ⟨between, behind, rfl, notBetween⟩ := List.eq_append_cons_of_mem second
  rw [List.count_append, List.count_cons_self, List.count_eq_zero.mpr notBetween] at twice
  have notBehind : .place .title ∉ behind := List.count_eq_zero.mp (by omega)
  refine ⟨front.flatMap (Segment.filled (Slot.content [])),
    between.flatMap (Segment.filled (Slot.content [])),
    behind.flatMap (Segment.filled (Slot.content [])), fun inTitle => ?_⟩
  rw [filledTemplate, substitute, whole, List.flatMap_append, List.flatMap_cons,
    List.flatMap_append, List.flatMap_cons, flatMap_filled_eq notFront,
    flatMap_filled_eq notBetween, flatMap_filled_eq notBehind]
  rfl

/-- What is put in for the title can be told from the filled template. -/
theorem filledTemplate_injective : Function.Injective filledTemplate := by
  intro left right same
  obtain ⟨front, between, behind, frame⟩ := exists_frame
  rw [frame, frame, List.append_cancel_left_eq] at same
  have lengths := congrArg List.length same
  simp only [List.length_append] at lengths
  exact (List.append_inj same (by omega)).1

/-! ## Slots in titles -/

/-- Escaping neither makes nor breaks slots. -/
theorem slot_isInfix_escape_iff (slot : Slot) (title : List Char) :
    slot.text <:+: escape title ↔ slot.text <:+: title := by
  constructor
  · rintro ⟨before, behind, whole⟩
    -- Entities neither end with the beginning of a slot nor begin within one, so that the slot is
    -- still there when the escaped title is read back.
    obtain ⟨others, shape⟩ := slot_shape slot
    have braceApart : ∀ entry ∈ entities, '\x7b' ∉ entry.2.toList := by decide
    have clear : ∀ entry ∈ entities, Clear entry.2.toList others := by
      have clearSlot : ∀ entry ∈ entities, Clear entry.2.toList slot.text := by
        cases slot <;> decide
      intro entry member
      exact (shape ▸ clearSlot entry member).of_cons
    have readBack := unescape_escape title
    rw [← whole, shape, List.append_assoc, List.cons_append, unescape,
      substitute_append_cons toldApart_entities braceApart, substitute_append_of_clear clear]
      at readBack
    rw [← readBack, shape]
    exact (List.prefix_append _ _).isInfix.trans (List.suffix_append _ _).isInfix
  · rintro ⟨before, behind, rfl⟩
    have itself : escape slot.text = slot.text := by
      cases slot <;> decide
    rw [escape_append, escape_append, itself]
    exact List.infix_append _ _ _

/-- What is put in for a title is the escaped title, unless it has a slot of its own. -/
theorem filledTitle_escape_eq_iff (title : List Char) :
    filledTitle (escape title) = escape title ↔
      ¬ Slot.style.text <:+: title ∧ ¬ Slot.script.text <:+: title := by
  constructor
  · intro same
    have noQuote : '"' ∉ escape title := not_mem_escape (by simp) title
    have noPlace : ¬ ∃ slot ∈ [Slot.style, Slot.script], slot.text <:+: escape title := by
      -- What is put in has quotation marks, and an escaped title has none.
      rw [← exists_place_iff toldApart_otherSlots]
      rintro ⟨slot, member, place⟩
      apply noQuote
      rw [← same, filledTitle, substitute, List.mem_flatMap]
      exact ⟨.place slot, place, quote_mem_content member _⟩
    simpa [slot_isInfix_escape_iff] using noPlace
  · rintro ⟨noStyle, noScript⟩
    apply substitute_eq_self
    intro slot member
    rw [slot_isInfix_escape_iff]
    rcases List.mem_pair.mp member with rfl | rfl
    · exact noStyle
    · exact noScript

/-- A page is its template with all slots filled at once, where those for the title get the escaped
title with its own slots for the style sheet and the script filled. They get the escaped title itself
exactly when the title has neither of these two slots in it. Pages differ only in what stands in the
slots for the title. -/
theorem page_fills_slots (title : String) :
    (page title).toList = filledTemplate (filledTitle (escape title.toList)) ∧
    ((page title).toList = filledTemplate (escape title.toList) ↔
      ¬ styleSlot.toList <:+: title.toList ∧ ¬ scriptSlot.toList <:+: title.toList) ∧
    ∃ front between behind, ∀ shown : String, (page shown).toList =
      front ++ (filledTitle (escape shown.toList) ++
        (between ++ (filledTitle (escape shown.toList) ++ behind))) := by
  have fills (shown : String) :
      (page shown).toList = filledTemplate (filledTitle (escape shown.toList)) := by
    rw [toList_page, filledInOrder_eq keptApart_template, filledTemplate]
  refine ⟨fills title, ?_, ?_⟩
  · rw [fills, filledTemplate_injective.eq_iff]
    exact filledTitle_escape_eq_iff title.toList
  · obtain ⟨front, between, behind, frame⟩ := exists_frame
    exact ⟨front, between, behind, fun shown => by rw [fills, frame]⟩

/-- With the slot for the style sheet as its title, the page has the style sheet where its title
should be. -/
theorem exampleStyleTitle_replaced :
    (page styleSlot).toList = filledTemplate styleSheet.toList ∧
      (page styleSlot).toList ≠ filledTemplate (escape styleSlot.toList) := by
  have escapes : escape styleSlot.toList = styleSlot.toList := by decide
  have fills : filledTitle styleSlot.toList = styleSheet.toList := by
    have place : filledTitle (Slot.style.text ++ []) = styleSheet.toList ++ [] :=
      substitute_place toldApart_otherSlots List.mem_cons_self []
    rwa [List.append_nil, List.append_nil] at place
  have filled : (page styleSlot).toList = filledTemplate styleSheet.toList := by
    rw [toList_page, filledInOrder_eq keptApart_template, escapes, fills, filledTemplate]
  refine ⟨filled, fun same => ?_⟩
  rw [filled, filledTemplate_injective.eq_iff, escapes] at same
  obtain ⟨others, shape⟩ := styleSheet_shape
  rw [shape] at same
  cases same

end Statute.Viewer
