import Statute.Proofs.Examples.Constants
import Statute.Proofs.Logic.NormalForm

/-!
# Tokens of written texts

What is scanned from the texts that terms and bodies are written with. Each text is judged in front of
everything that may follow it: a word in front of every text that does not extend it, a sign in front
of every text. Words and signs are put together where the one ends the other.
-/

namespace Statute.Logic

open Grammar

/-- Tokens that are scanned from a text in front of everything that may follow it. -/
def Spells (text : String) (tokens : List Token) (follow : List Char → Prop) : Prop :=
  ∀ ⦃rest⦄, follow rest → Scans (text.toList ++ rest) tokens rest

/-- A text that extends neither a name nor a number. -/
def EndsWord (rest : List Char) : Prop :=
  EndsName rest ∧ EndsNumber rest

/-- Signs that are no points extend no word. -/
theorem endsWord_of_sign {sign : Char} (notName : isNameCharacter sign = false)
    (notPoint : sign ≠ '.') (rest : List Char) : EndsWord (sign :: rest) := by
  have notDigit : isDigit sign = false := by
    rw [isNameCharacter, Bool.or_eq_false_iff] at notName
    exact notName.2
  refine ⟨?_, ?_, ?_⟩
  · rintro character ⟨⟩
    exact notName
  · rintro character ⟨⟩
    exact notDigit
  · intro digit after same
    exact absurd (List.cons.inj same).1 notPoint

/-- A point with which the text ends extends no word. -/
theorem endsWord_stop : EndsWord ['.'] := by
  refine ⟨?_, ?_, ?_⟩
  · rintro character ⟨⟩
    decide
  · rintro character ⟨⟩
    decide
  · rintro digit after ⟨⟩

namespace Spells

variable {text other : String} {tokens later : List Token} {follow narrower : List Char → Prop}

/-- A text that spells tokens in front of some followers spells them in front of fewer. -/
theorem mono (spells : Spells text tokens follow) (narrow : ∀ rest, narrower rest → follow rest) :
    Spells text tokens narrower :=
  fun _ followed => spells (narrow _ followed)

/-- Two texts one after the other, where the second or what follows it comes behind the first. -/
theorem append {followLater : List Char → Prop} (first : Spells text tokens follow)
    (second : Spells other later followLater)
    (joins : ∀ rest, followLater rest → follow (other.toList ++ rest)) :
    Spells (text ++ other) (tokens ++ later) followLater := by
  intro rest followed
  rw [String.toList_append, List.append_assoc]
  exact (first (joins rest followed)).append (second followed)

/-- A sign with a token of its own, whatever follows it. -/
theorem sign {token : Token}
    (scanned : ∀ rest, scanToken? (text.toList ++ rest) = some (token, rest)) :
    Spells text [token] fun _ => True :=
  fun rest _ => .single (scanned rest)

/-- A blank has no token. -/
theorem blank : Spells " " [] fun _ => True :=
  fun _ _ => .blank rfl .done

/-- The comma between items. -/
theorem comma : Spells ", " [.comma] fun _ => True :=
  fun _ _ => .token rfl (.blank rfl .done)

/-- The semicolon between the parts of a disjunction. -/
theorem semicolon : Spells "; " [.semicolon] fun _ => True :=
  fun _ _ => .token rfl (.blank rfl .done)

/-- What separates items is written between them. -/
theorem separated {α : Type} {render : α → String} {renderAll : List α → String}
    {separator : String} {token : Token} (single : ∀ item, renderAll [item] = render item)
    (several : ∀ first second others, renderAll (first :: second :: others) =
      render first ++ separator ++ renderAll (second :: others))
    (separates : Spells separator [token] fun _ => True)
    (apart : ∀ rest, EndsWord (separator.toList ++ rest)) {phrase : Phrase α} {items : List α}
    (nonempty : items ≠ [])
    (written : ∀ item ∈ items, ∃ tokens, Spells (render item) tokens EndsWord ∧
      phrase tokens item) :
    ∃ tokens, Spells (renderAll items) tokens EndsWord ∧
      Separated token phrase tokens items := by
  induction items with
  | nil => exact absurd rfl nonempty
  | cons first others inductionHypothesis =>
    obtain ⟨tokens, spelled, derived⟩ := written first List.mem_cons_self
    cases others with
    | nil => exact ⟨tokens, single first ▸ spelled, .single derived⟩
    | cons second others =>
      obtain ⟨later, othersSpelled, othersDerived⟩ := inductionHypothesis (List.cons_ne_nil _ _)
        fun item member => written item (List.mem_cons_of_mem _ member)
      refine ⟨tokens ++ token :: later, ?_, .cons derived othersDerived⟩
      rw [several, List.append_cons]
      exact (spelled.append separates fun rest _ => apart rest).append othersSpelled
        fun _ _ => trivial

end Spells

/-! ## Words -/

/-- Plain names are atoms. -/
theorem spells_plainName {name : String} (plain : Examples.isPlainName name.toList = true) :
    Spells name [.atom name] EndsWord := by
  intro rest ends
  obtain ⟨first, others, shape, lower, named⟩ := Examples.exists_of_isPlainName plain
  have scanned := scanToken?_atom lower named ends.1
  rw [← shape, String.ofList_toList] at scanned
  exact .single scanned

/-- Names of variables are variables. -/
theorem spells_variableName {name : String} (spelled : isVariableName name.toList = true) :
    Spells name [.var name] EndsWord := by
  intro rest ends
  cases shape : name.toList with
  | nil =>
    rw [shape] at spelled
    cases spelled
  | cons first others =>
    rw [shape, isVariableName, Bool.and_eq_true, List.all_eq_true] at spelled
    obtain ⟨starts, named⟩ := spelled
    have whole : String.ofList (first :: others) = name := by rw [← shape, String.ofList_toList]
    have scanned := scanToken?_variable starts named ends.1
    rw [whole] at scanned
    exact .single scanned

/-- What is one string by itself is one string in front of every text. -/
theorem spells_string {text : String} (spelled : IsStringContent text) :
    Spells ("\"" ++ text ++ "\"") [.string ("\"" ++ text ++ "\"")] fun _ => True := by
  intro rest _
  obtain ⟨⟨inside, after⟩, split, same⟩ := Option.map_eq_some_iff.mp spelled
  obtain ⟨token, rfl⟩ := Prod.mk.inj same
  have scanned : scanToken? ('"' :: (text.toList ++ ['"'] ++ rest)) =
      some (.string ("\"" ++ text ++ "\""), rest) := by
    change scanQuoted? '"' .string _ = _
    rw [scanQuoted?, splitQuoted?_append split, ← token]
    rfl
  have shape : ("\"" ++ text ++ "\"").toList ++ rest = '"' :: (text.toList ++ ['"'] ++ rest) := by
    simp
  rw [shape]
  exact .single scanned

/-- Plain names begin with no symbol. -/
theorem isSymbolic_of_plain {name : String} (plain : Examples.isPlainName name.toList = true) :
    Term.isSymbolic name = false := by
  obtain ⟨first, others, shape, lower, -⟩ := Examples.exists_of_isPlainName plain
  have alphanumeric : Text.isAlphanumeric first = true := by
    have bounds : 'a' ≤ first ∧ first ≤ 'z' := by
      simpa only [isLowerLetter, Bool.and_eq_true, decide_eq_true_eq] using lower
    have ascii : first.toNat < 0x80 := Nat.lt_of_le_of_lt bounds.2 (by decide)
    have letter : first.isLower = true := lower
    have alphabetic : first.isAlpha = true := Bool.or_eq_true_iff.mpr (.inr letter)
    rw [Text.isAlphanumeric, if_pos ascii]
    exact Bool.or_eq_true_iff.mpr (.inl alphabetic)
  rw [Term.isSymbolic, shape]
  simp [alphanumeric]

/-! ## Operators -/

/-- Calls of plain names are written with parentheses. -/
theorem Term.isInfix_of_plain {functor : String} {arguments : List Term}
    (plain : Examples.isPlainName functor.toList = true)
    (notInfix : ¬ (functor = "is" ∧ arguments.length = 2)) :
    Term.isInfix functor arguments = false := by
  rw [Term.isInfix, isSymbolic_of_plain plain, Bool.false_or, Bool.and_eq_false_iff,
    beq_eq_false_iff_ne, beq_eq_false_iff_ne]
  exact not_and_or.mp notInfix

/-- A term between two operands is written with a space on both sides of its operator. -/
theorem Term.render_infix {functor : String} {left right : Term}
    (between : Term.isInfix functor [left, right] = true) :
    (Term.compound functor [left, right]).render =
      left.render ++ " " ++ functor ++ " " ++ right.render := by
  have either : (Term.isSymbolic functor || functor == "is") = true := by
    simpa [Term.isInfix] using between
  rw [Term.render, if_pos either]

/-- Any other compound term is written as a call. -/
theorem Term.render_call {functor : String} {arguments : List Term}
    (notBetween : Term.isInfix functor arguments = false) :
    (Term.compound functor arguments).render =
      functor ++ "(" ++ Term.renderAll arguments ++ ")" := by
  match arguments with
  | [] => rfl
  | [_] => rfl
  | [left, right] =>
    have neither : ¬ (Term.isSymbolic functor || functor == "is") = true := by
      simpa [Term.isInfix] using notBetween
    rw [Term.render, if_neg neither, Term.renderAll, Term.renderAll]
    simp only [String.append_assoc]
  | _ :: _ :: _ :: _ => rfl

/-- An operator is scanned whole in front of a blank. -/
theorem scanToken?_operator {spelling : String} (listed : spelling ∈ operatorSpellings)
    (rest : List Char) :
    scanToken? (spelling.toList ++ ' ' :: rest) = some (.operator spelling, ' ' :: rest) := by
  simp only [operatorSpellings, List.mem_cons, List.not_mem_nil, or_false] at listed
  rcases listed with rfl | rfl | rfl | rfl | rfl | rfl | rfl | rfl | rfl | rfl | rfl | rfl | rfl |
    rfl <;> rfl

/-- The token of an operator in front of a blank, which joins the tokens of its operands. -/
theorem Operates.exists_token {spelling : String} {whole leftRank rightRank : Rank}
    (operates : Operates spelling whole leftRank rightRank) :
    ∃ token, Spells spelling [token] (fun rest => rest.head? = some ' ') ∧
      token ≠ .openParen ∧
      ∀ {primaries : Phrase Term} {leftTokens rightTokens : List Token} {left right : Term},
        leftRank.phrase primaries leftTokens left → rightRank.phrase primaries rightTokens right →
        whole.phrase primaries (leftTokens ++ token :: rightTokens)
          (.compound spelling [left, right]) := by
  have symbol (listed : spelling ∈ operatorSpellings) :
      Spells spelling [.operator spelling] fun rest => rest.head? = some ' ' := by
    intro rest isBlank
    obtain ⟨behind, rfl⟩ := List.head?_eq_some_iff.mp isBlank
    exact .single (scanToken?_operator listed behind)
  cases operates with
  | product listed =>
    have known : ∀ sign ∈ ["*", "/"], sign ∈ operatorSpellings := by decide
    exact ⟨.operator spelling, symbol (known _ listed), by simp,
      fun before last => .operation before listed last⟩
  | sum listed =>
    have known : ∀ sign ∈ ["+", "-"], sign ∈ operatorSpellings := by decide
    exact ⟨.operator spelling, symbol (known _ listed), by simp,
      fun before last => .operation before listed last⟩
  | comparison listed =>
    by_cases word : spelling = "is"
    · subst word
      refine ⟨.atom "is", (spells_plainName rfl).mono ?_, by simp,
        fun before behind => .comparison before .word behind⟩
      intro rest isBlank
      obtain ⟨behind, rfl⟩ := List.head?_eq_some_iff.mp isBlank
      exact endsWord_of_sign (by decide) (by decide) behind
    · have known : ∀ sign ∈ Reader.comparisonOperators, sign ≠ "is" → sign ∈ operatorSpellings := by
        decide
      exact ⟨.operator spelling, symbol (known _ listed word), by simp,
        fun before behind => .comparison before (.operator listed) behind⟩

end Statute.Logic
