import Statute.Proofs.Logic.Completeness
import Statute.Proofs.Logic.LineEnd
import Statute.Proofs.Logic.Relocation
import Statute.Proofs.Logic.Soundness

/-!
# Programs one behind the other

A program in front of another text, on lines of its own, adds its clauses in front of those of the
text and changes nothing else: where the text is no program, it fails as it does alone, farther
behind by the bytes of the program and of the line end. A text is one clause exactly when it is a
program of this clause only.
-/

namespace Statute.Logic

open Grammar Statute.Text

/-! ## Programs of the grammar -/

/-- Clauses one after another. -/
inductive IsProgram : List Token → List Clause → Prop where
  | nil : IsProgram [] []
  | cons {tokens clause later clauses} (first : IsClause BeginsApart tokens clause)
      (others : IsProgram later clauses) : IsProgram (tokens ++ later) (clause :: clauses)

/-- A clause has at least one token. -/
theorem Grammar.IsClause.length_pos {admits : List Token → Prop} {lexemes : List Lexeme}
    {clause : Clause} (derives : IsClause admits (lexemes.map Lexeme.token) clause) :
    0 < lexemes.length := by
  rw [← List.length_map Lexeme.token]
  generalize lexemes.map Lexeme.token = tokens at derives
  cases derives with
  | fact => simp
  | rule =>
    simp only [List.length_append, List.length_cons]
    omega

/-- A program of one clause is the clause. -/
theorem isProgram_singleton_iff {tokens : List Token} {clause : Clause} :
    IsProgram tokens [clause] ↔ IsClause BeginsApart tokens clause := by
  constructor
  · rintro (_ | ⟨first, _ | _⟩)
    rwa [List.append_nil]
  · intro derives
    rw [← List.append_nil tokens]
    exact .cons derives .nil

/-! ## Reading clause after clause -/

/-- Where the token before a place starts is of no interest to a primary that begins there. -/
theorem primary_ignores_previous (levels : Nat) (rest : List Lexeme)
    (depth previous other length : Nat) :
    Reader.primary levels ⟨rest, depth, previous, length⟩ =
      Reader.primary levels ⟨rest, depth, other, length⟩ := by
  cases levels with
  | zero => rfl
  | succ levels =>
    have inside : Reader.primaryInside (Reader.primary levels)
          ⟨rest, depth + 1, previous, length⟩ =
        Reader.primaryInside (Reader.primary levels) ⟨rest, depth + 1, other, length⟩ := by
      cases rest <;> rfl
    by_cases deep : maximumDepth < depth + 1
    · simp only [Reader.primary, Cursor.enter, deep, if_true]
      rfl
    · simp only [Reader.primary, Cursor.enter, deep, if_false, bind, Except.bind, inside]

/-- Where a clause begins, its reader has no use for the place of the token before. -/
theorem clause_ignores_previous (rest : List Lexeme) (depth previous other length : Nat) :
    Reader.clause ⟨rest, depth, previous, length⟩ =
      Reader.clause ⟨rest, depth, other, length⟩ := by
  simp only [Reader.clause, primary_ignores_previous _ rest depth previous other length]

/-- A clause that is read where no level is open is one of the grammar, with the tokens that it
takes. -/
theorem exists_isClause_of_reads {lexemes : List Lexeme} {previous length : Nat} {clause : Clause}
    {after : Cursor} (reads : Reader.clause ⟨lexemes, 0, previous, length⟩ = .ok (clause, after)) :
    ∃ read rest start, lexemes = read ++ rest ∧ after = ⟨rest, 0, start, length⟩ ∧
      IsClause BeginsApart (read.map Lexeme.token) clause := by
  obtain ⟨tokens, ⟨read, whole, rfl⟩, derives⟩ := Takes.clause rfl reads
  obtain ⟨start, again⟩ := Reads.ofClause derives read after.rest 0 previous length rfl
    (Nat.le_refl _) trivial
  obtain rfl : lexemes = read ++ after.rest := whole
  have same := (Prod.mk.inj (Except.ok.inj (reads.symm.trans again))).2
  exact ⟨read, after.rest, start, rfl, same, derives⟩

/-- The first of several clauses is read before the others. -/
theorem clauses_of_clause {cursor after : Cursor} {clause : Clause} (left : cursor.atEnd = false)
    (reads : Reader.clause cursor = .ok (clause, after)) (bound : Nat) :
    (Reader.clauses (bound + 1) cursor).map Prod.fst =
      ((Reader.clauses bound after).map Prod.fst).map (clause :: ·) := by
  simp only [Reader.clauses, left, Bool.false_eq_true, if_false, reads, bind, Except.bind]
  cases Reader.clauses bound after <;> rfl

/-- A larger bound on the number of clauses changes nothing, nor does the token before them. -/
theorem map_clauses_eq {rest : List Lexeme} {bound other : Nat} (enough : rest.length ≤ bound)
    (otherEnough : rest.length ≤ other) (previous otherPrevious length : Nat) :
    (Reader.clauses bound ⟨rest, 0, previous, length⟩).map Prod.fst =
      (Reader.clauses other ⟨rest, 0, otherPrevious, length⟩).map Prod.fst := by
  -- Each clause takes at least one token, so both bounds suffice for what is left behind it.
  induction bound generalizing rest other previous otherPrevious with
  | zero =>
    obtain rfl := List.length_eq_zero_iff.mp (Nat.le_zero.mp enough)
    cases other <;> rfl
  | succ bound inductionHypothesis =>
    cases rest with
    | nil => cases other <;> rfl
    | cons lexeme rest =>
      obtain ⟨other, rfl⟩ : ∃ less, other = less + 1 := ⟨other - 1, by simp at otherEnough; omega⟩
      cases reads : Reader.clause ⟨lexeme :: rest, 0, otherPrevious, length⟩ with
      | error error =>
        simp only [Reader.clauses, Cursor.atEnd, List.isEmpty_cons, Bool.false_eq_true, if_false,
          clause_ignores_previous _ _ previous otherPrevious, reads, bind, Except.bind]
      | ok result =>
        obtain ⟨clause, after⟩ := result
        obtain ⟨read, behind, start, whole, rfl, derives⟩ := exists_isClause_of_reads reads
        have taken := derives.length_pos
        have lengths := congrArg List.length whole
        simp only [List.length_cons, List.length_append] at lengths enough otherEnough
        have fewer : behind.length ≤ bound := by omega
        have otherFewer : behind.length ≤ other := by omega
        have readsToo := (clause_ignores_previous _ _ previous otherPrevious _).trans reads
        rw [clauses_of_clause rfl reads, clauses_of_clause rfl readsToo,
          inductionHypothesis fewer otherFewer start start]

/-- The clauses of the tokens of a source. -/
def readProgram (lexemes : List Lexeme) (sourceLength : Nat) : Except SyntaxError (List Clause) :=
  (Reader.clauses lexemes.length (Cursor.atStart lexemes sourceLength)).map Prod.fst

/-- A program is tokenized as a whole before its clauses are read. -/
theorem parseProgram_eq (source : String) :
    parseProgram source = (do
      let lexemes ← tokenize source
      readProgram lexemes (byteLength source.toList)) := by
  rw [parseProgram]
  congr 1

/-- The tokens of a clause in front of others give the first clause. -/
theorem readProgram_of_isClause {read : List Lexeme} {clause : Clause}
    (derives : IsClause BeginsApart (read.map Lexeme.token) clause) (rest : List Lexeme)
    (length : Nat) :
    readProgram (read ++ rest) length = (readProgram rest length).map (clause :: ·) := by
  obtain ⟨start, reads⟩ := Reads.ofClause derives read rest 0 0 length rfl (Nat.le_refl _) trivial
  obtain ⟨lexeme, others, rfl⟩ := List.exists_cons_of_length_pos derives.length_pos
  have enough : rest.length ≤ (others ++ rest).length := by simp
  calc readProgram (lexeme :: others ++ rest) length
      = ((Reader.clauses (others ++ rest).length ⟨rest, 0, start, length⟩).map Prod.fst).map
          (clause :: ·) := clauses_of_clause rfl reads _
    _ = (readProgram rest length).map (clause :: ·) := by
      rw [map_clauses_eq enough (Nat.le_refl _) start 0]
      rfl

/-- Programs of the grammar in front of other tokens give their clauses first. -/
theorem IsProgram.readProgram_append {tokens : List Token} {clauses : List Clause}
    (program : IsProgram tokens clauses) {lexemes : List Lexeme}
    (same : lexemes.map Lexeme.token = tokens) (more : List Lexeme) (length : Nat) :
    readProgram (lexemes ++ more) length = (readProgram more length).map (clauses ++ ·) := by
  induction program generalizing lexemes with
  | nil =>
    obtain rfl := List.map_eq_nil_iff.mp same
    rw [List.nil_append]
    cases readProgram more length <;> rfl
  | cons first others inductionHypothesis =>
    obtain ⟨read, rest, rfl, rfl, restSame⟩ := List.map_eq_append_iff.mp same
    rw [List.append_assoc, readProgram_of_isClause first, inductionHypothesis restSame]
    cases readProgram more length <;> rfl

/-- Tokens that are read as clauses are a program of the grammar. -/
theorem isProgram_of_readProgram {length : Nat} : ∀ {lexemes : List Lexeme} {clauses : List Clause},
    readProgram lexemes length = .ok clauses → IsProgram (lexemes.map Lexeme.token) clauses
  | [], clauses, reads => by
    obtain rfl := Except.ok.inj reads
    exact .nil
  | lexeme :: others, clauses, reads => by
    cases first : Reader.clause ⟨lexeme :: others, 0, 0, length⟩ with
    | error error =>
      simp only [readProgram, Cursor.atStart, List.length_cons, Reader.clauses, Cursor.atEnd,
        List.isEmpty_cons, Bool.false_eq_true, if_false, first, bind, Except.bind] at reads
      cases reads
    | ok result =>
      obtain ⟨clause, after⟩ := result
      obtain ⟨read, rest, start, whole, -, derives⟩ := exists_isClause_of_reads first
      have shorter : rest.length < (lexeme :: others).length := by
        have taken := derives.length_pos
        rw [whole, List.length_append]
        omega
      rw [whole, readProgram_of_isClause derives] at reads
      obtain ⟨later, laterReads, rfl⟩ := map_eq_ok_iff.mp reads
      rw [whole, List.map_append]
      exact .cons derives (isProgram_of_readProgram laterReads)
termination_by lexemes => lexemes.length
decreasing_by exact shorter

/-- A source is read as a program exactly when its tokens are one of the grammar. -/
theorem readProgram_eq_ok_iff {lexemes : List Lexeme} {length : Nat} {clauses : List Clause} :
    readProgram lexemes length = .ok clauses ↔ IsProgram (lexemes.map Lexeme.token) clauses := by
  refine ⟨isProgram_of_readProgram, fun program => ?_⟩
  have reads := program.readProgram_append rfl [] length
  rw [List.append_nil] at reads
  exact reads.trans (congrArg Except.ok (List.append_nil clauses))

/-- Tokens farther behind give the same clauses, and errors farther behind. -/
theorem readProgram_moved (distance : Nat) (lexemes : List Lexeme) (length : Nat) :
    readProgram (lexemes.map (Lexeme.moved distance)) (length + distance) =
      movedOutcome distance id (readProgram lexemes length) := by
  have moves := (Placeless.clauses lexemes.length).movable distance
    (Cursor.atStart lexemes length)
  have enough : (lexemes.map (Lexeme.moved distance)).length ≤ lexemes.length := by simp
  rw [readProgram, Cursor.atStart, map_clauses_eq (Nat.le_refl _) enough 0 (0 + distance)]
  rw [Cursor.moved, Cursor.atStart] at moves
  dsimp only at moves
  rw [moves, readProgram, Cursor.atStart]
  cases Reader.clauses _ _ <;> rfl

/-! ## Sources -/

/-- A program in front of another text adds its clauses to those of the text, which stands farther
behind by the bytes of the program and the line end. -/
theorem parseProgram_append_line {first : String} {clauses : List Clause}
    (parses : parseProgram first = .ok clauses) (second : String) :
    parseProgram (first ++ "\n" ++ second) =
      movedOutcome (byteLength first.toList + 1) (clauses ++ ·) (parseProgram second) := by
  rw [parseProgram_eq] at parses
  obtain ⟨lexemes, scans, reads⟩ := bind_eq_ok_iff.mp parses
  have whole : (first ++ "\n" ++ second).toList = first.toList ++ '\n' :: second.toList := by
    simp
  have length : byteLength (first ++ "\n" ++ second).toList =
      byteLength second.toList + (byteLength first.toList + 1) := by
    have lineEnd : '\n'.utf8Size = 1 := rfl
    rw [whole, byteLength_append, byteLength, lineEnd]
    omega
  have scanned : tokenize (first ++ "\n" ++ second) =
      (movedOutcome (byteLength first.toList + 1)
        (List.map (Lexeme.moved (byteLength first.toList + 1))) (tokenize second)).map
          (lexemes ++ ·) := by
    rw [tokenize, whole, scanFrom_append_line second.toList scans, Nat.add_assoc, scanFrom_moved]
    rfl
  rw [parseProgram_eq, parseProgram_eq second, scanned, length]
  cases tokenize second with
  | error error => rfl
  | ok others =>
    have behind := (isProgram_of_readProgram reads).readProgram_append rfl
      (others.map (Lexeme.moved (byteLength first.toList + 1)))
      (byteLength second.toList + (byteLength first.toList + 1))
    rw [readProgram_moved] at behind
    refine behind.trans ?_
    change _ = movedOutcome _ _ (readProgram others _)
    cases readProgram others _ <;> rfl

/-- A source is one clause exactly when it is a program of this clause only. -/
theorem parseClause_eq_ok_iff_parseProgram {source : String} {clause : Clause} :
    parseClause source = .ok clause ↔ parseProgram source = .ok [clause] := by
  rw [parseProgram_eq]
  constructor
  · intro parses
    obtain ⟨lexemes, scans, -⟩ := bind_eq_ok_iff.mp parses
    have derives := isClause_of_parseClause scans parses
    exact bind_eq_ok_iff.mpr
      ⟨lexemes, scans, readProgram_eq_ok_iff.mpr (isProgram_singleton_iff.mpr derives)⟩
  · intro parses
    obtain ⟨lexemes, scans, reads⟩ := bind_eq_ok_iff.mp parses
    exact parseClause_of_isClause scans
      (isProgram_singleton_iff.mp (readProgram_eq_ok_iff.mp reads))

/-- Parsing programs is compositional: a program in front of a line end and another text adds its
clauses in front of those of the text, and the text fails as it does alone, with an offset that is
larger by the bytes of the program and one. A source is read as a clause exactly when it is read as
the program of this clause only. -/
theorem parseProgram_compositional :
    (∀ first second clauses, parseProgram first = .ok clauses →
      (∀ others, parseProgram second = .ok others →
        parseProgram (first ++ "\n" ++ second) = .ok (clauses ++ others)) ∧
      ∀ error, parseProgram second = .error error →
        parseProgram (first ++ "\n" ++ second) =
          .error (error.moved (byteLength first.toList + 1))) ∧
    ∀ source clause, parseClause source = .ok clause ↔ parseProgram source = .ok [clause] := by
  refine ⟨fun first second clauses parses => ⟨fun others othersParse => ?_, fun error fails => ?_⟩,
    fun source clause => parseClause_eq_ok_iff_parseProgram⟩
  · rw [parseProgram_append_line parses, othersParse]
    rfl
  · rw [parseProgram_append_line parses, fails]
    rfl

/-- A program whose comment ends at the line end, in front of a program and of a text with a
quotation that is not closed. -/
theorem exampleLines_parsed :
    parseProgram "p(1.5). % ends here" = .ok [⟨.compound "p" [.number "1.5"], none⟩] ∧
      parseProgram "q :- r." = .ok [⟨.atom "q", some (.goal (.atom "r"))⟩] ∧
      parseProgram "q('a" = .error (.unexpectedText 2 "'a") ∧
      parseProgram ("p(1.5). % ends here" ++ "\n" ++ "q :- r.") =
        .ok [⟨.compound "p" [.number "1.5"], none⟩, ⟨.atom "q", some (.goal (.atom "r"))⟩] ∧
      parseProgram ("p(1.5). % ends here" ++ "\n" ++ "q('a") =
        .error (.unexpectedText 22 "'a") ∧
      parseClause "q :- r." = .ok ⟨.atom "q", some (.goal (.atom "r"))⟩ := by
  have first : parseProgram "p(1.5). % ends here" = .ok [⟨.compound "p" [.number "1.5"], none⟩] :=
    toOption_eq_some_iff.mp (by decide +kernel)
  have second : parseProgram "q :- r." = .ok [⟨.atom "q", some (.goal (.atom "r"))⟩] :=
    toOption_eq_some_iff.mp (by decide +kernel)
  have unclosed : parseProgram "q('a" = .error (.unexpectedText 2 "'a") := by decide +kernel
  obtain ⟨lines, single⟩ := parseProgram_compositional
  exact ⟨first, second, unclosed, (lines _ _ _ first).1 _ second,
    (lines _ _ _ first).2 _ unclosed, (single _ _).mpr second⟩

end Statute.Logic
