import Statute.Logic.Token.Scan
import Statute.Proofs.Sequences

/-!
# Scanning judgments

`Scans text tokens rest` says that the tokens stand at the beginning of a text, blanks between them,
and that `rest` follows the last of them. Each token is judged with everything that follows it
present, so judgments compose without cutting a longest token in two. `tokenize_of_scans` brings a
judgment about a whole source back to the tokenizer. Comments are not judged here.
-/

namespace Statute.Logic

open Statute.Text

/-- Tokens at the beginning of a text and what follows them. -/
inductive Scans : List Char → List Token → List Char → Prop where
  | done {text} : Scans text [] text
  | blank {character text tokens rest} (layout : isLayoutCharacter character = true)
      (later : Scans text tokens rest) : Scans (character :: text) tokens rest
  | token {text after token tokens rest} (scanned : scanToken? text = some (token, after))
      (later : Scans after tokens rest) : Scans text (token :: tokens) rest

/-- Judgments compose where the first one ends. -/
theorem Scans.append {text middle rest : List Char} {first second : List Token}
    (before : Scans text first middle) (behind : Scans middle second rest) :
    Scans text (first ++ second) rest := by
  induction before with
  | done => exact behind
  | blank layout _ inductionHypothesis => exact .blank layout (inductionHypothesis behind)
  | token scanned _ inductionHypothesis => exact .token scanned (inductionHypothesis behind)

/-- A single token is a judgment of its own. -/
theorem Scans.single {text rest : List Char} {token : Token}
    (scanned : scanToken? text = some (token, rest)) : Scans text [token] rest :=
  .token scanned .done

/-- The characters of layout outside of comments. -/
theorem isLayoutCharacter_iff {character : Char} :
    isLayoutCharacter character = true ↔ character ∈ [' ', '\t', '\r', '\n', '\x0c'] := by
  simp [isLayoutCharacter, or_assoc]

/-- What holds of each of these characters holds of layout. -/
theorem of_isLayoutCharacter {character : Char} (layout : isLayoutCharacter character = true)
    (holds : Char → Bool) (each : [' ', '\t', '\r', '\n', '\x0c'].all holds = true) :
    holds character = true :=
  List.all_eq_true.mp each character (isLayoutCharacter_iff.mp layout)

/-- No token begins with a blank or with the sign of a comment. -/
theorem not_layout_of_scanToken? {character : Char} {text : List Char} {found : Token × List Char}
    (scanned : scanToken? (character :: text) = some found) :
    (isLayoutCharacter character || character = '%') = false := by
  rw [Bool.eq_false_iff]
  intro layout
  simp only [isLayoutCharacter, Bool.or_eq_true, decide_eq_true_eq] at layout
  have nothing : scanToken? (character :: text) = none := by
    rcases layout with ((((rfl | rfl) | rfl) | rfl) | rfl) | rfl <;> rfl
  simp [nothing] at scanned

/-- What follows the first token of a text is shorter than the text. -/
theorem length_lt_of_cut {inComment : Bool} {text rest after : List Char} {first : Char}
    {token : Token} (cut : (splitLayout inComment text).2 = first :: rest)
    (scanned : scanToken? (first :: rest) = some (token, after)) : after.length < text.length := by
  have shorter := (scanToken?_eq_some scanned).2
  have notLonger := length_splitLayout_le inComment text
  rw [cut] at notLonger
  omega

/-- Scanning by the layout that comes first and the token behind it. -/
theorem scanFrom_eq (offset : Nat) (text : List Char) :
    scanFrom offset text =
      match (splitLayout false text).2 with
      | [] => .ok []
      | first :: rest =>
        let start := offset + byteLength (splitLayout false text).1
        match scanToken? (first :: rest) with
        | none => .error (.unexpectedText start (String.ofList (refusedText (first :: rest))))
        | some (token, after) =>
          let finish := start + byteLength token.spelling.toList
          (scanFrom finish after).map (⟨token, start, finish⟩ :: ·) := by
  rw [scanFrom]
  split
  next cut => simp only [cut]
  next first rest cut =>
    simp only [cut]
    split
    next refused => simp only [refused]
    next token after scanned =>
      simp only [scanned]
      cases scanFrom _ after <;> rfl

/-- A blank in front of a text moves its tokens and changes none of them. -/
theorem scanFrom_blank {character : Char} (layout : isLayoutCharacter character = true)
    (offset : Nat) (text : List Char) :
    scanFrom offset (character :: text) = scanFrom (offset + character.utf8Size) text := by
  have notComment : character ≠ '%' := by
    rintro rfl
    simp [isLayoutCharacter] at layout
  have cut : splitLayout false (character :: text) =
      (character :: (splitLayout false text).1, (splitLayout false text).2) := by
    simp [splitLayout, layout, notComment]
  rw [scanFrom_eq, scanFrom_eq (offset + _), cut]
  simp only [byteLength, Nat.add_assoc]

/-- Judged tokens are scanned wherever the text begins, if scanning goes on behind them. -/
theorem Scans.scanFrom {text rest : List Char} {tokens later : List Token}
    (judged : Scans text tokens rest)
    (behind : ∀ offset, ∃ lexemes, scanFrom offset rest = .ok lexemes ∧
      lexemes.map Lexeme.token = later) (offset : Nat) :
    ∃ lexemes, Logic.scanFrom offset text = .ok lexemes ∧
      lexemes.map Lexeme.token = tokens ++ later := by
  induction judged generalizing offset with
  | done => exact behind offset
  | blank layout _ inductionHypothesis =>
    rw [scanFrom_blank layout]
    exact inductionHypothesis behind _
  | @token text after token tokens rest scanned _ inductionHypothesis =>
    cases text with
    | nil => exact nomatch scanned
    | cons character text =>
      have cut : splitLayout false (character :: text) = ([], character :: text) := by
        simp [splitLayout, not_layout_of_scanToken? scanned]
      obtain ⟨lexemes, scans, same⟩ :=
        inductionHypothesis behind (offset + byteLength token.spelling.toList)
      refine ⟨⟨token, offset, offset + byteLength token.spelling.toList⟩ :: lexemes, ?_, ?_⟩
      · rw [scanFrom_eq, cut]
        simp [scanned, scans, byteLength, Except.map]
      · simp [same]

/-- Each token of a scanned text was scanned at some place of it. -/
theorem exists_scanned_of_mem {offset : Nat} {text : List Char} {lexemes : List Lexeme}
    {lexeme : Lexeme} (scans : Logic.scanFrom offset text = .ok lexemes)
    (member : lexeme ∈ lexemes) :
    ∃ before after, text = before ++ (lexeme.token.spelling.toList ++ after) ∧
      scanToken? (lexeme.token.spelling.toList ++ after) = some (lexeme.token, after) := by
  rw [scanFrom_eq] at scans
  split at scans
  next =>
    obtain rfl := Except.ok.inj scans
    cases member
  next first rest cut =>
    dsimp only at scans
    split at scans
    next => cases scans
    next token after scanned =>
      have spelled := (scanToken?_eq_some scanned).1
      have shorter := length_lt_of_cut cut scanned
      have whole : (splitLayout false text).1 ++ (token.spelling.toList ++ after) = text := by
        rw [← spelled, ← cut, splitLayout_append]
      obtain ⟨later, laterScans, rfl⟩ := map_eq_ok_iff.mp scans
      rcases List.mem_cons.mp member with rfl | member
      · exact ⟨_, after, whole.symm, spelled ▸ scanned⟩
      · obtain ⟨before, behind, later, inside⟩ := exists_scanned_of_mem laterScans member
        refine ⟨(splitLayout false text).1 ++ (token.spelling.toList ++ before), behind, ?_, inside⟩
        rw [List.append_assoc, List.append_assoc, ← later]
        exact whole.symm
termination_by text.length

/-- A judgment about a whole source gives its tokens in order. -/
theorem tokenize_of_scans {source : String} {tokens : List Token}
    (judged : Scans source.toList tokens []) :
    ∃ lexemes, tokenize source = .ok lexemes ∧ lexemes.map Lexeme.token = tokens := by
  have behind (offset : Nat) : ∃ lexemes, scanFrom offset [] = .ok lexemes ∧
      lexemes.map Lexeme.token = [] := ⟨[], scanFrom_eq offset [], rfl⟩
  simpa [tokenize] using judged.scanFrom behind 0

end Statute.Logic
