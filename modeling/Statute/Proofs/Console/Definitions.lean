import Statute.Console.Command
import Statute.Proofs.Logic.ClauseTexts
import Statute.Proofs.Logic.CommentedText

/-!
# Checked definitions

Before a definition is sent to the backend, the blanks around it are trimmed and a stop is put
behind it when it does not end with one. Only its last character is looked at. The last token of a
clause is its stop, and when a trimmed clause does not end with this stop, it ends inside of a
comment. Then the stop that is put behind it is a part of the comment.
-/

namespace Statute.Command

open Logic Grammar Text

/-- A text with a stop at its end. -/
def stopped (text : List Char) : List Char :=
  if text.getLast? = some '.' then text else text ++ ['.']

theorem checkedDefinition_eq (definition : String) :
    checkedDefinition definition =
      (parseClause (String.ofList (stopped (trim definition.toList)))).map fun _ =>
        String.ofList (stopped (trim definition.toList)) :=
  rfl

/-- A definition is accepted when its stopped text is a clause, and replaced by this text. -/
theorem checkedDefinition_eq_ok_iff {definition text : String} :
    checkedDefinition definition = .ok text ↔
      text.toList = stopped (trim definition.toList) ∧ ∃ clause, parseClause text = .ok clause := by
  rw [checkedDefinition_eq, map_eq_ok_iff]
  constructor
  · rintro ⟨clause, parses, rfl⟩
    exact ⟨String.toList_ofList, clause, parses⟩
  · rintro ⟨shape, clause, parses⟩
    rw [← shape, String.ofList_toList]
    exact ⟨clause, parses, rfl⟩

/-- A stopped text ends with a stop. -/
theorem getLast?_stopped (text : List Char) : (stopped text).getLast? = some '.' := by
  unfold stopped
  split
  next ends => exact ends
  next => exact List.getLast?_concat

/-- A text that ends with a stop is not stopped again. -/
theorem stopped_eq_self {text : List Char} (ends : text.getLast? = some '.') :
    stopped text = text :=
  if_pos ends

/-- There are no blanks around a trimmed text with a stop at its end. -/
theorem trim_stopped_trim (text : List Char) :
    trim (stopped (trim text)) = stopped (trim text) := by
  by_cases ends : (trim text).getLast? = some '.'
  · rw [stopped_eq_self ends, trim_trim]
  · rw [stopped, if_neg ends, trim_append_stop, trimLeft_eq_self (not_isBlank_head_trim text)]

/-- The tokens of a clause are the same with a stop at the end of its text: where the text does not
end with the one that it has, it ends inside of a comment. -/
theorem exists_passes_stopped {text : List Char} {tokens : List Token} {stillIn : Bool}
    (passes : Passes false text tokens stillIn []) (stops : tokens.getLast? = some .stop)
    (notBlank : ∀ last, text.getLast? = some last → isBlank last = false) :
    ∃ lastIn, Passes false (stopped text) tokens lastIn [] := by
  by_cases ends : text.getLast? = some '.'
  · exact ⟨stillIn, by rwa [stopped_eq_self ends]⟩
  rw [stopped, if_neg ends]
  cases stillIn with
  | true =>
    have inComment := (passes.inFrontOf (.inl rfl)).append (.inside (by decide) .done)
    rw [List.append_nil] at inComment
    exact ⟨true, inComment⟩
  | false =>
    exfalso
    cases last : text.getLast? with
    | none =>
      obtain rfl := List.getLast?_eq_none_iff.mp last
      obtain ⟨rfl, -⟩ := passes.of_allBlank fun _ inside => nomatch inside
      cases stops
    | some character =>
      rcases passes.last_of_outside last with layout | ⟨token, isLast, spelled⟩
      · have isBlank := isBlank_of_layout layout
        rw [notBlank character last] at isBlank
        cases isBlank
      · obtain rfl : token = .stop := Option.some.inj (isLast.symm.trans stops)
        exact ends (last.trans spelled.symm)

/-- The last token of a clause is its stop. -/
theorem getLast?_of_isClause {tokens : List Token} {clause : Clause}
    (derives : IsClause BeginsApart tokens clause) : tokens.getLast? = some .stop := by
  cases derives <;> exact List.getLast?_concat

/-- Whatever is accepted is sent as a clause with a stop at its end, and this clause is accepted as
it is. Every definition that is a clause is accepted, whatever blanks and comments there are behind
its stop, and what is sent is the same clause. -/
theorem checkedDefinition_normalizes_clauses (definition : String) :
    (∀ text, checkedDefinition definition = .ok text →
      (∃ clause, parseClause text = .ok clause) ∧ text.toList.getLast? = some '.' ∧
        checkedDefinition text = .ok text) ∧
    (∀ clause, parseClause definition = .ok clause →
      ∃ text, checkedDefinition definition = .ok text ∧ parseClause text = .ok clause) := by
  constructor
  · intro text accepted
    obtain ⟨shape, clause, parses⟩ := checkedDefinition_eq_ok_iff.mp accepted
    have ends : text.toList.getLast? = some '.' := shape ▸ getLast?_stopped _
    have trimmed : trim text.toList = text.toList := shape ▸ trim_stopped_trim _
    refine ⟨⟨clause, parses⟩, ends, checkedDefinition_eq_ok_iff.mpr ⟨?_, clause, parses⟩⟩
    rw [trimmed, stopped_eq_self ends]
  · intro clause parses
    obtain ⟨tokens, stillIn, passes, derives⟩ := parseClause_eq_ok_iff_passes.mp parses
    obtain ⟨trimmedIn, trimmed, -⟩ := passes.exists_trim
    obtain ⟨lastIn, stops⟩ := exists_passes_stopped trimmed (getLast?_of_isClause derives)
      (not_isBlank_last_trim definition.toList)
    rw [← @String.toList_ofList (stopped _)] at stops
    have sent := parseClause_eq_ok_iff_passes.mpr ⟨tokens, lastIn, stops, derives⟩
    exact ⟨_, checkedDefinition_eq_ok_iff.mpr ⟨String.toList_ofList, clause, sent⟩, sent⟩

/-- A fact with a comment and a line end behind its stop. -/
def exampleDefinition : String :=
  "  adult(tom).\t% of age\n"

/-- The fact. -/
def exampleFact : Clause :=
  ⟨.compound "adult" [.atom "tom"], none⟩

/-- The text that is sent for the fact, with a second stop in its comment. -/
def exampleSent : String :=
  "adult(tom).\t% of age."

/-- The fact is accepted with its comment, and so is what is sent for it. -/
theorem exampleDefinition_accepted :
    parseClause exampleDefinition = .ok exampleFact ∧
      checkedDefinition exampleDefinition = .ok exampleSent ∧
      ((∃ clause, parseClause exampleSent = .ok clause) ∧
        exampleSent.toList.getLast? = some '.' ∧
        checkedDefinition exampleSent = .ok exampleSent) ∧
      ∃ text, checkedDefinition exampleDefinition = .ok text ∧
        parseClause text = .ok exampleFact := by
  have parses : parseClause exampleDefinition = .ok exampleFact :=
    toOption_eq_some_iff.mp (by decide +kernel)
  have accepted : checkedDefinition exampleDefinition = .ok exampleSent :=
    toOption_eq_some_iff.mp (by decide +kernel)
  obtain ⟨ofAccepted, ofClause⟩ := checkedDefinition_normalizes_clauses exampleDefinition
  exact ⟨parses, accepted, ofAccepted _ accepted, ofClause _ parses⟩

end Statute.Command
