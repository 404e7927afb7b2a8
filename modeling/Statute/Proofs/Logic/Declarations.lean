import Statute.Logic.DynamicDeclaration
import Statute.Proofs.Logic.DeclaredNames
import Statute.Proofs.Number.Digits
import Statute.Proofs.Text.Lines

/-!
# Tokens of declarations

The declarations of atoms are one line for each, and a predicate stands at the end of its line as it
was written, in a comment. Comments end where lines do. So the declarations have the tokens that are
due, those of the head for each base fact and none for derived predicates, when no predicate has a
line end inside and base facts show the name and the arguments of their heads.
-/

namespace Statute.Logic

open Grammar Predicate Text

/-! ## The line of an atom -/

/-- The declaration of a predicate with a number of arguments. -/
def declarationText (predicate : String) (count : Nat) : String :=
  ":- dynamic " ++ declaredName predicate ++ "/" ++ toString count ++ ". % " ++ trimmed predicate

/-- The line of a predicate, which is a comment for derived predicates. -/
def declarationLine (predicate : String) (isFact : Bool) (count : Nat) : String :=
  if isFact then declarationText predicate count
  else "%" ++ declarationText predicate count ++ "; This is a derived predicate, not a fact."

/-- A declaration is the line of the predicate with the number of its arguments, when they can be
counted. -/
theorem dynamicDeclaration_eq (predicate : String) (isFact : Bool) :
    dynamicDeclaration predicate isFact =
      (arity (trimmed predicate)).map (declarationLine predicate isFact) := by
  have name : String.ofList (trim (nameText (trimmed predicate).toList)) =
      declaredName predicate := by
    rw [trimmed, String.toList_ofList, declaredName]
  rw [dynamicDeclaration]
  dsimp only
  rw [name]
  cases arity (trimmed predicate) with
  | error => rfl
  | ok count => cases isFact <;> rfl

/-- The decimal form of a number is one token in front of every text that does not extend it. -/
theorem scans_repr (count : Nat) {rest : List Char} (ends : EndsNumber rest) :
    Scans (count.repr.toList ++ rest) [.number count.repr] rest := by
  have digits : ∀ digit ∈ count.repr.toList, isDigit digit = true := by
    rw [Nat.toList_repr]
    exact fun digit => Number.isDigit_of_mem_toDigits
  have cut := splitNumber_whole digits ends
  cases shape : count.repr.toList with
  | nil =>
    rw [Nat.toList_repr] at shape
    exact absurd shape Nat.toDigits_ne_nil
  | cons first others =>
    rw [shape] at cut digits
    have scanned := scanToken?_number (digits first List.mem_cons_self) cut
    rw [← shape, String.ofList_toList] at scanned
    exact .single scanned

/-- What stands in front of the name in a declaration. -/
theorem scans_directive (rest : List Char) :
    Scans (":- dynamic ".toList ++ rest) [.neck, .atom "dynamic"] rest := by
  have directive : Spells "dynamic" [.atom "dynamic"] EndsWord := spells_plainName rfl
  exact .token rfl (.blank rfl ((directive (endsWord_of_sign (by decide) (by decide) rest)).append
    (.blank rfl .done)))

/-- What stands behind the name in a declaration. -/
def declarationEnd (predicate : String) (count : Nat) : List Char :=
  '/' :: (count.repr.toList ++ ". % ".toList ++ trim predicate.toList)

/-- A declaration consists of the directive, the name and what stands behind it. -/
theorem toList_declarationText (predicate : String) (count : Nat) :
    (declarationText predicate count).toList =
      ":- dynamic ".toList ++ ((declaredName predicate).toList ++
        declarationEnd predicate count) := by
  change (":- dynamic " ++ declaredName predicate ++ "/" ++ toString count ++ ". % " ++
    trimmed predicate).toList = _
  rw [declarationEnd, trimmed]
  simp only [String.toList_append, String.toList_ofList, List.append_assoc]
  rfl

/-- No line ends within a declaration but those of its predicate. -/
theorem lineEnd_mem_declarationEnd {predicate : String} {count : Nat}
    (member : '\n' ∈ declarationEnd predicate count) : '\n' ∈ trim predicate.toList := by
  have digits : '\n' ∉ Nat.toDigits 10 count :=
    fun inside => absurd (Number.isDigit_of_mem_toDigits inside) (by decide)
  simpa [declarationEnd, digits] using member

/-- A declaration is broken exactly where the trimmed predicate is. -/
theorem lineEnd_mem_declarationText_iff {predicate : String} {count : Nat} :
    '\n' ∈ (declarationText predicate count).toList ↔ '\n' ∈ trim predicate.toList := by
  rw [toList_declarationText, List.mem_append, List.mem_append]
  constructor
  · rintro (directive | name | behind)
    · exact absurd directive (by decide)
    · exact declaredName_subset predicate name
    · exact lineEnd_mem_declarationEnd behind
  · intro inside
    exact .inr (.inr (List.mem_cons_of_mem _ (List.mem_append_right _ inside)))

/-- The line of a predicate is broken exactly there, also where it is a comment. -/
theorem lineEnd_mem_declarationLine_iff {predicate : String} {isFact : Bool} {count : Nat} :
    '\n' ∈ (declarationLine predicate isFact count).toList ↔ '\n' ∈ trim predicate.toList := by
  rw [declarationLine, ← @lineEnd_mem_declarationText_iff predicate count]
  cases isFact with
  | true => rfl
  | false => simp

/-- The number of arguments and the stop stand behind a name, and the predicate is a comment. -/
theorem passes_declarationEnd {predicate : String} (oneLine : '\n' ∉ trim predicate.toList)
    (count : Nat) :
    Passes false (declarationEnd predicate count)
      [.operator "/", .number count.repr, .stop] true [] := by
  have ends : EndsNumber (". % ".toList ++ trim predicate.toList) := by
    refine ⟨?_, ?_⟩
    · rintro character ⟨⟩
      decide
    · intro digit after same
      obtain rfl := (List.cons.inj (List.cons.inj same).2).1
      decide
  have sameLine : '\n' ∉ ' ' :: trim predicate.toList := by simpa using oneLine
  have comment := Passes.comment sameLine []
  rw [List.append_nil] at comment
  have number := (scans_repr count ends).passes
  rw [← List.append_assoc] at number
  exact .token rfl (number.append (.token rfl (.blank rfl (.opens comment))))

/-- The tokens of a declaration are those of its name between the directive and the number of
arguments. Nothing follows the name when it ends inside of a comment. -/
theorem passes_declarationText {predicate : String} (oneLine : '\n' ∉ trim predicate.toList)
    (count : Nat) {tokens : List Token} {stillIn : Bool}
    (passes : Passes false (declaredName predicate).toList tokens stillIn []) :
    Passes false (declarationText predicate count).toList
      (.neck :: .atom "dynamic" :: (tokens ++
        if stillIn then [] else [.operator "/", .number count.repr, .stop])) true [] := by
  have apart : EndsTokens (declarationEnd predicate count) := by
    right
    rintro _ ⟨⟩
    decide
  rw [toList_declarationText]
  refine (scans_directive _).passes.append ((passes.inFrontOf apart).append ?_)
  cases stillIn with
  | false => exact passes_declarationEnd oneLine count
  | true =>
    have sameLine : '\n' ∉ declarationEnd predicate count := mt lineEnd_mem_declarationEnd oneLine
    have comment := Passes.comment sameLine []
    rwa [List.append_nil] at comment

/-! ## What is declared -/

/-- The tokens that declare the head of an atom. -/
def HeadedAtom.headTokens (atom : HeadedAtom) : List Token :=
  [.neck, .atom "dynamic", .atom atom.name, .operator "/", .number (toString atom.head.arity),
    .stop]

/-- The tokens that are due for an atom: base facts are declared, and nothing else is. -/
def HeadedAtom.dueTokens (atom : HeadedAtom) : List Token :=
  if atom.isFact then atom.headTokens else []

/-- The line of an atom. For a derived predicate it is a comment. -/
structure HeadedAtom.IsLine (atom : HeadedAtom) (line : String) : Prop where
  oneLine : '\n' ∉ line.toList
  tokens : HasTokens line atom.dueTokens
  comment : atom.isFact = false → line.toList.head? = some '%'

/-- A text with one line for each atom and with the tokens that are due for all of them in order. -/
structure DeclaresFacts (text : String) (atoms : List HeadedAtom) : Prop where
  lines : ∃ lines, text = joined "\n" lines ∧ List.Forall₂ HeadedAtom.IsLine atoms lines
  tokens : HasTokens text (atoms.flatMap HeadedAtom.dueTokens)

/-- The trimmed predicate stands on one line, and for a base fact what is found in its text is the
name and the number of arguments of the head. -/
structure HeadedAtom.IsDeclarable (atom : HeadedAtom) : Prop where
  oneLine : '\n' ∉ trim atom.predicate.toList
  named : atom.isFact = true → declaredName atom.predicate = atom.name
  counted : atom.isFact = true → arity (trimmed atom.predicate) = .ok atom.head.arity

/-- The declaration of a predicate on one line has the tokens of its head exactly when the name and
the number of arguments are those of the head. -/
theorem HeadedAtom.hasTokens_declarationText_iff (atom : HeadedAtom)
    (oneLine : '\n' ∉ trim atom.predicate.toList) (count : Nat) :
    HasTokens (declarationText atom.predicate count) atom.headTokens ↔
      declaredName atom.predicate = atom.name ∧ count = atom.head.arity := by
  rw [hasTokens_iff_passes]
  have ofName (same : declaredName atom.predicate = atom.name) :
      Passes false (declarationText atom.predicate count).toList
        [.neck, .atom "dynamic", .atom atom.name, .operator "/", .number count.repr, .stop]
        true [] := by
    have name : Passes false (declaredName atom.predicate).toList [.atom atom.name] false [] := by
      rw [same]
      exact atom.scans_name.passes
    exact passes_declarationText oneLine count name
  constructor
  · rintro ⟨stillIn, passes⟩
    rcases atom.declaredName_cases oneLine with same | none | ⟨stops, stopped, inComment⟩
    · have tokens := passes.tokens_unique (ofName same)
      have number : atom.head.arity.repr = count.repr := by
        simpa [HeadedAtom.headTokens] using tokens
      exact ⟨same, (Number.repr_injective number).symm⟩
    · -- The token of the name is missing.
      have nothing : Passes false (declaredName atom.predicate).toList [] false [] :=
        none ▸ .done
      have tokens := passes.tokens_unique (passes_declarationText oneLine count nothing)
      simp [HeadedAtom.headTokens] at tokens
    · -- The tokens behind the name are missing.
      have tokens := passes.tokens_unique (passes_declarationText oneLine count inComment)
      rcases stopped with rfl | rfl <;> simp [HeadedAtom.headTokens] at tokens
  · rintro ⟨same, rfl⟩
    exact ⟨true, ofName same⟩

/-- The line of a derived predicate is a comment. -/
theorem exists_derived_line (predicate : String) (count : Nat) :
    ∃ rest, (declarationLine predicate false count).toList = '%' :: rest := by
  refine ⟨(declarationText predicate count ++
    "; This is a derived predicate, not a fact.").toList, ?_⟩
  rw [declarationLine, if_neg Bool.false_ne_true, String.append_assoc, String.toList_append]
  rfl

/-- The line of an atom is as it should be exactly when the atom can be declared so. -/
theorem HeadedAtom.isLine_iff (atom : HeadedAtom) {line : String}
    (declares : dynamicDeclaration atom.predicate atom.isFact = .ok line) :
    atom.IsLine line ↔ atom.IsDeclarable := by
  rw [dynamicDeclaration_eq] at declares
  obtain ⟨count, counts, rfl⟩ := map_eq_ok_iff.mp declares
  have sameLine := not_congr (@lineEnd_mem_declarationLine_iff atom.predicate atom.isFact count)
  constructor
  · intro isLine
    have oneLine := sameLine.mp isLine.oneLine
    have found (isFact : atom.isFact = true) :=
      (atom.hasTokens_declarationText_iff oneLine count).mp (by
        have tokens := isLine.tokens
        rwa [HeadedAtom.dueTokens, if_pos isFact, declarationLine, if_pos isFact] at tokens)
    exact ⟨oneLine, fun isFact => (found isFact).1, fun isFact => (found isFact).2 ▸ counts⟩
  · intro declarable
    have oneLine := sameLine.mpr declarable.oneLine
    cases isFact : atom.isFact with
    | true =>
      have same : count = atom.head.arity :=
        Except.ok.inj (counts.symm.trans (declarable.counted isFact))
      refine ⟨isFact ▸ oneLine, ?_, fun derived => absurd (isFact.symm.trans derived) (by decide)⟩
      rw [HeadedAtom.dueTokens, if_pos isFact, declarationLine, if_pos rfl]
      exact (atom.hasTokens_declarationText_iff declarable.oneLine count).mpr
        ⟨declarable.named isFact, same⟩
    | false =>
      obtain ⟨rest, line⟩ := exists_derived_line atom.predicate count
      rw [isFact, line, List.mem_cons, not_or] at oneLine
      have comment := Passes.comment oneLine.2 []
      rw [List.append_nil] at comment
      refine ⟨?_, ?_, fun _ => by rw [line]; rfl⟩
      · rw [line]
        simpa using oneLine.2
      · rw [HeadedAtom.dueTokens, isFact, hasTokens_iff_passes, line]
        exact ⟨true, .opens comment⟩

/-- Lines one below the other have their tokens one after the other. -/
theorem hasTokens_joined_lines {lines : List String} {tokens : List (List Token)}
    (each : List.Forall₂ HasTokens lines tokens) :
    HasTokens (joined "\n" lines) tokens.flatten := by
  induction each with
  | nil => exact ⟨[], by rw [joined, tokenize, scanFrom_eq]; rfl, rfl⟩
  | @cons line lineTokens lines tokens first others inductionHypothesis =>
    cases others with
    | nil =>
      rw [List.flatten_cons, List.flatten_nil, List.append_nil]
      exact first
    | @cons second _ lines =>
      have shape : (joined "\n" (line :: second :: lines)).toList =
          line.toList ++ '\n' :: (joined "\n" (second :: lines)).toList := by simp [joined]
      rw [hasTokens_iff_passes] at first inductionHypothesis ⊢
      obtain ⟨stillIn, passes⟩ := first
      obtain ⟨lastIn, behind⟩ := inductionHypothesis
      rw [shape, List.flatten_cons]
      exact ⟨lastIn, passes.append_line behind⟩

/-- The declarations of atoms are one line for each. -/
theorem dynamicDeclarations_eq_ok_iff {atoms : List HeadedAtom} {text : String} :
    dynamicDeclarations (atoms.map HeadedAtom.toAtom) = .ok text ↔
      ∃ lines, List.Forall₂ (fun atom line =>
        dynamicDeclaration atom.predicate atom.isFact = .ok line) atoms lines ∧
        text = joined "\n" lines := by
  rw [dynamicDeclarations, bind_eq_ok_iff]
  refine exists_congr fun lines => and_congr ?_ ?_
  · rw [mapM_eq_ok_iff, List.forall₂_map_left_iff]
  · exact ⟨fun same => (Except.ok.inj same).symm, fun same => same ▸ rfl⟩

/-- A text declares the base facts among atoms exactly when each atom can be declared. -/
theorem declaresFacts_iff {atoms : List HeadedAtom} {text : String}
    (declares : dynamicDeclarations (atoms.map HeadedAtom.toAtom) = .ok text) :
    DeclaresFacts text atoms ↔ ∀ atom ∈ atoms, atom.IsDeclarable := by
  obtain ⟨lines, lineOf, rfl⟩ := dynamicDeclarations_eq_ok_iff.mp declares
  have isLine_iff {atom : HeadedAtom} {line : String} := @HeadedAtom.isLine_iff atom line
  constructor
  · rintro ⟨⟨others, same, isLines⟩, -⟩
    have oneLine : ∀ line ∈ others, '\n' ∉ line.toList :=
      ((List.forall₂_and_left _ _).mp
        (isLines.flip.imp fun _ _ isLine => ⟨isLine.oneLine, isLine⟩)).1
    obtain rfl : others = lines := joined_lines_injective oneLine
      (isLines.length_eq.symm.trans lineOf.length_eq) same.symm
    exact ((List.forall₂_and_left _ _).mp (lineOf.mp (fun _ _ declares isLine =>
      ⟨(isLine_iff declares).mp isLine, isLine⟩) isLines)).1
  · intro declarable
    have isLines : List.Forall₂ HeadedAtom.IsLine atoms lines :=
      ((List.forall₂_and_left _ _).mpr ⟨declarable, lineOf⟩).imp fun _ _ ⟨each, declares⟩ =>
        (isLine_iff declares).mpr each
    refine ⟨⟨lines, rfl, isLines⟩, ?_⟩
    rw [List.flatMap_def]
    exact hasTokens_joined_lines
      (List.forall₂_map_right_iff.mpr (isLines.flip.imp fun _ _ isLine => isLine.tokens))

/-- An atom whose predicate begins with the name can be declared. -/
theorem HeadedAtom.BeginsWithName.isDeclarable {atom : HeadedAtom} (begins : atom.BeginsWithName) :
    atom.IsDeclarable :=
  ⟨begins.oneLine, fun _ => begins.declaredName_eq, fun _ => begins.arity_eq⟩

/-- Declarations declare the base facts among their atoms, one line for each atom, exactly when each
predicate stands on one line and what its text shows of a base fact is the name of the head and the
number of its arguments. So it is when the predicates begin with their names, have no comments and
stand on one line. -/
theorem dynamicDeclarations_declare_facts {atoms : List HeadedAtom} {text : String}
    (declares : dynamicDeclarations (atoms.map HeadedAtom.toAtom) = .ok text) :
    (DeclaresFacts text atoms ↔ ∀ atom ∈ atoms, atom.IsDeclarable) ∧
      ((∀ atom ∈ atoms, atom.BeginsWithName) → DeclaresFacts text atoms) := by
  refine ⟨declaresFacts_iff declares, fun begin => (declaresFacts_iff declares).mpr ?_⟩
  exact fun atom listed => (begin atom listed).isDeclarable

/-- A base fact with blanks around its name. -/
def exampleOwner : HeadedAtom where
  id := 1
  fragmentId := 1
  predicate := " owns (P, item(A, [B]))"
  description := ""
  isNegated := false
  isFact := true
  spans := []
  head := .compound "owns" [.var "P", .compound "item" [.var "A", .list [.var "B"] none]]
  name := "owns"
  parses := toOption_eq_some_iff.mp (by decide +kernel)
  named := rfl
  plain := rfl
  unquoted := by decide +kernel

/-- A derived predicate. -/
def exampleWealthy : HeadedAtom where
  id := 2
  fragmentId := 1
  predicate := "wealthy(P)"
  description := ""
  isNegated := false
  isFact := false
  spans := []
  head := .compound "wealthy" [.var "P"]
  name := "wealthy"
  parses := toOption_eq_some_iff.mp (by decide +kernel)
  named := rfl
  plain := rfl
  unquoted := by decide +kernel

/-- The declarations of both. -/
def exampleDeclarations : String :=
  ":- dynamic owns/2. % owns (P, item(A, [B]))\n" ++
    "%:- dynamic wealthy/1. % wealthy(P); This is a derived predicate, not a fact."

/-- Only the base fact is declared. -/
theorem exampleDeclarations_declare_owner :
    dynamicDeclarations ([exampleOwner, exampleWealthy].map HeadedAtom.toAtom) =
        .ok exampleDeclarations ∧
      DeclaresFacts exampleDeclarations [exampleOwner, exampleWealthy] := by
  have declares : dynamicDeclarations ([exampleOwner, exampleWealthy].map HeadedAtom.toAtom) =
      .ok exampleDeclarations := toOption_eq_some_iff.mp (by decide +kernel)
  have owner : exampleOwner.BeginsWithName :=
    ⟨by decide +kernel, by decide +kernel, by decide +kernel⟩
  have wealthy : exampleWealthy.BeginsWithName :=
    ⟨by decide +kernel, by decide +kernel, by decide +kernel⟩
  refine ⟨declares, (dynamicDeclarations_declare_facts declares).2 ?_⟩
  simp [owner, wealthy]

/-- A derived predicate with a line end between its arguments. -/
def exampleReaches : HeadedAtom where
  id := 1
  fragmentId := 1
  predicate := "reaches(A,\nB)"
  description := ""
  isNegated := false
  isFact := false
  spans := []
  head := .compound "reaches" [.var "A", .var "B"]
  name := "reaches"
  parses := toOption_eq_some_iff.mp (by decide +kernel)
  named := rfl
  plain := rfl
  unquoted := by decide +kernel

/-- The declaration of the predicate, which goes on behind the comment. -/
def exampleOpenComment : String :=
  "%:- dynamic reaches/2. % reaches(A,\nB); This is a derived predicate, not a fact."

/-- Nothing is to be declared, but tokens follow on the second line. -/
theorem exampleReaches_not_commented :
    exampleReaches.isFact = false ∧
      dynamicDeclarations [exampleReaches.toAtom] = .ok exampleOpenComment ∧
      HasTokens exampleOpenComment [.var "B", .closeParen, .semicolon, .var "This", .atom "is",
        .atom "a", .atom "derived", .atom "predicate", .comma, .atom "not", .atom "a",
        .atom "fact", .stop] ∧
      ¬ DeclaresFacts exampleOpenComment [exampleReaches] := by
  have declares : dynamicDeclarations [exampleReaches.toAtom] = .ok exampleOpenComment :=
    toOption_eq_some_iff.mp (by decide +kernel)
  have tokens : ((tokenize exampleOpenComment).toOption.map fun lexemes =>
      lexemes.map Lexeme.token) = some [.var "B", .closeParen, .semicolon, .var "This", .atom "is",
        .atom "a", .atom "derived", .atom "predicate", .comma, .atom "not", .atom "a",
        .atom "fact", .stop] := by decide +kernel
  obtain ⟨lexemes, scans, same⟩ := Option.map_eq_some_iff.mp tokens
  have scanned := toOption_eq_some_iff.mp scans
  refine ⟨rfl, declares, ⟨lexemes, scanned, same⟩, ?_⟩
  rintro ⟨-, others, otherScans, nothing⟩
  obtain rfl := Except.ok.inj (scanned.symm.trans otherScans)
  rw [same] at nothing
  cases nothing

end Statute.Logic
