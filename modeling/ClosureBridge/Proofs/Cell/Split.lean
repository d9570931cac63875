import ClosureBridge.Proofs.Session.Keeps
import Mathlib.Data.List.TakeWhile

/-!
# A cell and its last line

A cell whose last line is an expression is run in two pieces. This module shows that the pieces
consist of the statements of the cell: a line is read on its own and its margins do not count, so
neither the blank lines at the end nor the line ends that are lost on the way matter.

## Main definitions

* `Cell.isTail`, `Cell.parts`, `Cell.pieces`: which line is split off, and the pieces of lines and
  of a cell.
* `Cell.prepare`, `Cell.conclude`: a cell up to its pieces, and from there on.

## Main statements

* `Script.Statement.block_join`: joined lines have the statements of the lines.
* `Script.Statement.ofSingle_of_ofText`: a line that is an expression is the statement that
  evaluates it.
* `Cell.run_eq`: a cell is split into its pieces, and the pieces are run.
* `Cell.statements_pieces`: the pieces have the statements of the cell, and its errors.
-/

namespace ClosureBridge

namespace Margin

/-- A blank at the end does not count. -/
theorem trimEnd_append_blank {c : Char} (hc : Category.isBlank c = true) (text : List Char) :
    trimEnd (text ++ [c]) = trimEnd text := by
  simp [trimEnd, hc]

/-- What does not start with a blank loses none there. -/
theorem trimStart_of_head {text : List Char} (h : text.head?.any Category.isBlank = false) :
    trimStart text = text := by
  cases text with
  | nil => rfl
  | cons c rest =>
    have hc : Category.isBlank c = false := h
    simp [trimStart, hc]

theorem trimStart_of_blank {text : List Char} (h : text.all Category.isBlank = true) :
    trimStart text = [] := by
  rw [trimStart, List.dropWhile_eq_nil_iff]
  exact List.all_eq_true.mp h

end Margin

namespace Lines

/-- A line as it was, but for a carriage return at its end. -/
theorem dropReturn_eq_or (line : List Char) :
    dropReturn line = line ∨ line = dropReturn line ++ ['\r'] := by
  induction line using dropReturn.induct with
  | case1 => exact .inl rfl
  | case2 => exact .inr rfl
  | case3 c tail hsingle ih =>
    rw [dropReturn.eq_3 c tail hsingle]
    rcases ih with h | h
    · exact .inl (congrArg (c :: ·) h)
    · exact .inr (congrArg (c :: ·) h)

end Lines

namespace Script.Statement

/-! ### Statements of lines -/

/-- The statements of a line, if it has any. -/
def ofSingle (line : List Char) : Except SyntaxFault (List Statement) :=
  let trimmed := Margin.trim line
  if isSkipped trimmed then .ok [] else (ofBlockLine line trimmed).map fun s => [s]

theorem ofLines_cons (line : List Char) (rest : List (List Char)) :
    ofLines (line :: rest) = do return (← ofSingle line) ++ (← ofLines rest) := by
  unfold ofSingle
  rw [ofLines]
  dsimp only
  split
  · cases ofLines rest <;> rfl
  · cases ofBlockLine line (Margin.trim line) with
    | error e => rfl
    | ok s => cases ofLines rest <;> rfl

/-- The statements of some lines and of those that follow them. -/
theorem ofLines_append (lines more : List (List Char)) :
    ofLines (lines ++ more) = do return (← ofLines lines) ++ (← ofLines more) := by
  induction lines with
  | nil =>
    change ofLines more = _
    cases ofLines more <;> rfl
  | cons line rest ih =>
    rw [List.cons_append, ofLines_cons, ofLines_cons, ih]
    cases ofSingle line with
    | error e => rfl
    | ok s =>
      cases ofLines rest with
      | error e => rfl
      | ok ss =>
        cases ofLines more with
        | error e => rfl
        | ok ms => exact congrArg Except.ok (List.append_assoc s ss ms).symm

theorem ofSingle_of_blank {line : List Char} (h : line.all Category.isBlank = true) :
    ofSingle line = .ok [] := by
  have htrim : Margin.trim line = [] := by
    rw [Margin.trim, Margin.trimStart_of_blank h]
    rfl
  rw [ofSingle, htrim]
  rfl

/-- Blank lines have no statements. -/
theorem ofLines_of_blank {lines : List (List Char)}
    (h : ∀ line ∈ lines, line.all Category.isBlank = true) : ofLines lines = .ok [] := by
  induction lines with
  | nil => rfl
  | cons line rest ih =>
    rw [ofLines_cons, ofSingle_of_blank (h line List.mem_cons_self),
      ih fun l hl => h l (List.mem_cons_of_mem line hl)]
    rfl

/-- A carriage return at the end of a line does not count. -/
theorem ofSingle_dropReturn (line : List Char) :
    ofSingle (Lines.dropReturn line) = ofSingle line := by
  rcases Lines.dropReturn_eq_or line with h | h
  · rw [h]
  · generalize Lines.dropReturn line = kept at h
    subst h
    cases kept with
    | nil => rfl
    | cons c rest =>
      -- A blank at the end of what is not blank is a margin; the first character stays.
      have htrim : Margin.trim (c :: rest ++ ['\r']) = Margin.trim (c :: rest) := by
        by_cases hb : (c :: rest).all Category.isBlank = true
        · have hb' : (c :: rest ++ ['\r']).all Category.isBlank = true := by
            rw [List.all_append, hb]
            rfl
          rw [Margin.trim, Margin.trim, Margin.trimStart_of_blank hb,
            Margin.trimStart_of_blank hb']
        · have hstart : Margin.trimStart (c :: rest ++ ['\r']) =
              Margin.trimStart (c :: rest) ++ ['\r'] := by
            unfold Margin.trimStart
            rw [List.dropWhile_append, if_neg]
            rw [List.isEmpty_iff, List.dropWhile_eq_nil_iff]
            exact fun hall => hb (List.all_eq_true.mpr hall)
          rw [Margin.trim, Margin.trim, hstart, Margin.trimEnd_append_blank rfl]
      unfold ofSingle
      rw [htrim]
      rfl

/-- Joined lines have the statements of the lines. -/
theorem block_join {lines : List (List Char)} (h : ∀ line ∈ lines, '\n' ∉ line) :
    block (Lines.join lines) = ofLines lines := by
  unfold block
  induction lines using Lines.join.induct with
  | case1 => rfl
  | case2 line =>
    rw [Lines.join]
    cases line with
    | nil => rfl
    | cons c rest =>
      rw [Lines.ofChars_of_not_mem (h _ List.mem_cons_self) (List.cons_ne_nil c rest)]
  | case3 line more hmore ih =>
    have hline : '\n' ∉ line := h line List.mem_cons_self
    have hrest := ih fun l hl => h l (List.mem_cons_of_mem line hl)
    rw [Lines.join, Lines.ofChars_append_newline hline, ofLines_cons, ofLines_cons,
      ofSingle_dropReturn, hrest]
    exact hmore

/-! ### A line that is an expression -/

/-- An expression does not start with a word that is no name of a value, a lambda apart. -/
theorem ofTokens_raise (rest : List Token) (e : Expr) :
    Expr.ofTokens (.name "raise" :: rest) ≠ .ok e := by
  have hb : Parser.budget (.name "raise" :: rest) = 8 * rest.length + 11 + 5 := by
    simp only [Parser.budget, List.length_cons]
    omega
  rw [Expr.ofTokens, hb]
  simp [Parser.expr, Parser.sum, Parser.term, Parser.unary, Parser.atom, Parser.isReserved,
    bind, Except.bind]

/-- Something is left after a name that is followed by an equals sign. -/
theorem ofTokens_assign (x : String) (rest : List Token) (e : Expr) :
    Expr.ofTokens (.name x :: .symbol .assign :: rest) ≠ .ok e := by
  have hb : Parser.budget (.name x :: .symbol .assign :: rest) = 8 * rest.length + 19 + 5 := by
    simp only [Parser.budget, List.length_cons]
    omega
  rw [Expr.ofTokens, hb]
  by_cases hx : x = "lambda"
  · subst hx
    simp [Parser.expr, Parser.params, bind, Except.bind]
  · by_cases hr : Parser.isReserved x = true
    · simp [Parser.expr, Parser.sum, Parser.term, Parser.unary, Parser.atom, hx, hr,
        bind, Except.bind]
    · simp [Parser.expr, Parser.sum, Parser.term, Parser.unary, Parser.atom, Parser.postfixes,
        Parser.moreTerm, Parser.moreSum, Parser.finish, hx, hr, bind, Except.bind, pure,
        Except.pure]

/-- Tokens that make up an expression are the statement that evaluates it. -/
theorem ofTokens_of_expr {tokens : List Token} {e : Expr} (h : Expr.ofTokens tokens = .ok e)
    (line : List Char) : ofTokens line tokens = .ok (.evaluate e) := by
  unfold ofTokens
  split
  · exact absurd h (ofTokens_raise _ e)
  · exact absurd h (ofTokens_assign _ _ e)
  · rw [h]
    rfl

/-- What is read over is no expression. -/
theorem isSkipped_of_ofText {line : List Char} {e : Expr} (h : Expr.ofText line = .ok e) :
    isSkipped (Margin.trim line) = false := by
  unfold Expr.ofText at h
  generalize Margin.trim line = trimmed at h ⊢
  cases trimmed with
  | nil => cases h
  | cons c rest =>
    by_cases hc : c = '#'
    · subst hc
      cases h
    · simp [isSkipped, hc]

/-- A line that stands alone and is an expression is the statement that evaluates it. -/
theorem ofSingle_of_ofText {line : List Char} {e : Expr} (hs : Cell.standsAlone line = true)
    (h : Expr.ofText line = .ok e) : ofSingle line = .ok [.evaluate e] := by
  rw [Cell.standsAlone, Bool.and_eq_true, Bool.not_eq_true', bne_iff_ne] at hs
  obtain ⟨hhead, hcolon⟩ := hs
  have htrim : Margin.trim line = Margin.trimEnd line := by
    rw [Margin.trim, Margin.trimStart_of_head hhead]
  have hline : ofLine (Margin.trim line) = .ok (.evaluate e) := by
    unfold Expr.ofText at h
    unfold ofLine
    cases ht : Token.scan (Margin.trim line) with
    | error e' =>
      rw [ht] at h
      cases h
    | ok tokens =>
      rw [ht] at h
      exact ofTokens_of_expr h _
  rw [ofSingle, isSkipped_of_ofText h, ofBlockLine, hhead, hline, htrim, if_neg hcolon]
  rfl

end Script.Statement

namespace Cell

open Script (Expr Statement)

/-! ### The pieces of a cell -/

/-- Whether a line is split off when it is the last one. -/
def isTail (line : List Char) : Bool :=
  standsAlone line && (Image.crosses (String.ofList line) && (Expr.ofText line).isOk)

/-- The lines that are run as a block, and the line that is split off. -/
def parts (lines : List (List Char)) : List (List Char) × Option (List Char) :=
  match lines.getLast? with
  | none => (lines, none)
  | some last => if isTail last then (lines.dropLast, some last) else (lines, none)

/-- The pieces of a cell without magic lines. -/
def pieces (source : String) : List (List Char) × Option (List Char) :=
  parts (dropBlankEnd (Lines.ofChars source.toList))

/-- The first part of running a cell: its magic lines are handled, and what is left is split into
the lines that are run as a block and the line that is evaluated on its own. -/
def prepare {ι : Type} (I : Interpreter ι) (marker : Char)
    (handler : String → String → Exec (World ι) Directive) (source : String) :
    Exec (World ι) (List Handled × List (List Char) × Option (List Char)) := do
  let reading ← read marker handler (Lines.ofChars source.toList)
  let (lines, tail) ← splitTail (isExpression I) (dropBlankEnd reading.lines)
  return (reading.handled, lines, tail)

/-- The rest of running a cell: the lines that are run as a block, the line that is evaluated on its
own unless the block failed, and the output. -/
def conclude {ι : Type} (I : Interpreter ι) (c : Context) (handled : List Handled)
    (lines : List (List Char)) (tail : Option (List Char)) :
    Exec (World ι) (String × List Handled) := do
  let shown ← if ← runBody I c lines then runTail I c tail else pure none
  let written ← Capture.drain I c
  return (written ++ inlineText handled ++ shown.getD "", handled)

/-- A cell is split into its pieces once its context captures output and the output of before has
been read, and then the pieces are run. -/
theorem run_eq {ι : Type} (I : Interpreter ι) (c : Context) (source : String) (marker : Char)
    (handler : String → String → Exec (World ι) Directive) :
    run I c source marker handler = (do
      let _ ← Capture.start I c
      let _ ← Capture.drain I c
      let (handled, lines, tail) ← prepare I marker handler source
      conclude I c handled lines tail) := by
  simp only [run, prepare, conclude, bind_assoc, pure_bind]

section

variable (rc : Script.Caller Bench) (k : Nat)

/-- A scripted interpreter compiles the lines that are expressions. -/
theorem run_isExpression (line : List Char) (w : Session) :
    ∃ v, (isExpression (Bench.machine rc (.scripted k)) line).run w =
      (.ok (Image.crosses (String.ofList line) && (Expr.ofText line).isOk), v) := by
  unfold isExpression Context.compiles
  split
  · next hc =>
    have hcheck : Script.check .eval (String.ofList line) = (Expr.ofText line).map fun _ => () := by
      rw [Script.check, String.toList_ofList]
    have hrun : ((Bench.machine rc (.scripted k)).compile (String.ofList line)
        Context.inputName .eval) = Script.compile k (String.ofList line) .eval := rfl
    rw [hrun, Script.compile, hcheck, hc]
    cases Expr.ofText line with
    | ok e => exact ⟨_, rfl⟩
    | error e => exact ⟨_, rfl⟩
  · next hc =>
    rw [Bool.eq_false_iff.mpr hc]
    exact ⟨w, rfl⟩

/-- A cell is split as its lines say. -/
theorem run_splitTail (lines : List (List Char)) (w : Session) :
    ∃ v, (splitTail (isExpression (Bench.machine rc (.scripted k))) lines).run w =
      (.ok (parts lines), v) := by
  unfold splitTail parts isTail
  cases lines.getLast? with
  | none => exact ⟨w, rfl⟩
  | some last =>
    dsimp only
    cases standsAlone last with
    | false => exact ⟨w, rfl⟩
    | true =>
      obtain ⟨v, hv⟩ := run_isExpression rc k last w
      refine ⟨v, ?_⟩
      rw [if_pos rfl, Exec.run_bind_of_ok hv, Bool.true_and]
      split <;> rfl

end

/-- A line that does not start with the marker is not a magic line. -/
theorem magic?_of_head {marker : Char} {line : List Char} (h : line.head? ≠ some marker) :
    magic? marker line = none := by
  cases line with
  | nil => rfl
  | cons c line => exact if_neg fun hc => h (congrArg some hc)

/-- Without magic lines the lines stay as they are. -/
theorem run_read_of_plain {ι : Type} {marker : Char}
    (handler : String → String → Exec (World ι) Directive) {lines : List (List Char)}
    (h : ∀ line ∈ lines, line.head? ≠ some marker) (w : World ι) :
    (read marker handler lines).run w = (.ok ⟨lines, []⟩, w) := by
  induction lines with
  | nil => rfl
  | cons line rest ih =>
    have hrest := ih fun l hl => h l (List.mem_cons_of_mem line hl)
    rw [read, magic?_of_head (h line List.mem_cons_self)]
    dsimp only
    rw [Exec.run_bind_of_ok hrest]
    rfl

/-- Lines are those kept and blank ones after them. -/
theorem exists_dropBlankEnd_append (lines : List (List Char)) :
    ∃ blanks, lines = dropBlankEnd lines ++ blanks ∧ ∀ line ∈ blanks, isBlankLine line = true := by
  refine ⟨(lines.reverse.takeWhile isBlankLine).reverse, ?_, fun line hline => ?_⟩
  · rw [dropBlankEnd, ← List.reverse_append, List.takeWhile_append_dropWhile, List.reverse_reverse]
  · exact List.mem_takeWhile_imp (List.mem_reverse.mp hline)

/-- Blank lines at the end have no statements. -/
theorem ofLines_dropBlankEnd (lines : List (List Char)) :
    Statement.ofLines (dropBlankEnd lines) = Statement.ofLines lines := by
  obtain ⟨blanks, happend, hblank⟩ := exists_dropBlankEnd_append lines
  conv_rhs => rw [happend, Statement.ofLines_append, Statement.ofLines_of_blank hblank]
  cases Statement.ofLines (dropBlankEnd lines) with
  | error e => rfl
  | ok ss => exact congrArg Except.ok (List.append_nil ss).symm

/-- What is split off is a statement of its own. -/
theorem ofSingle_of_isTail {line : List Char} (h : isTail line = true) :
    ∃ e, Expr.ofText line = .ok e ∧ Statement.ofSingle line = .ok [.evaluate e] := by
  rw [isTail, Bool.and_eq_true, Bool.and_eq_true] at h
  obtain ⟨hs, -, he⟩ := h
  cases hline : Expr.ofText line with
  | error e =>
    rw [hline] at he
    cases he
  | ok e => exact ⟨e, rfl, Statement.ofSingle_of_ofText hs hline⟩

/-- The pieces of lines have the statements of the lines. -/
theorem ofLines_parts {lines : List (List Char)} (h : ∀ line ∈ lines, '\n' ∉ line) :
    match parts lines with
    | (kept, some last) => ∃ e, Expr.ofText last = .ok e ∧
        Statement.ofLines lines = (Statement.block (Lines.join kept)).map (· ++ [.evaluate e])
    | (kept, none) => Statement.ofLines lines = Statement.block (Lines.join kept) := by
  have hwhole : Statement.ofLines lines = Statement.block (Lines.join lines) :=
    (Statement.block_join h).symm
  unfold parts
  cases hlast : lines.getLast? with
  | none => exact hwhole
  | some last =>
    dsimp only
    split
    · next kept tail heq =>
      split at heq
      · next htail =>
        cases heq
        obtain ⟨e, he, hsingle⟩ := ofSingle_of_isTail htail
        obtain ⟨kept, rfl⟩ := List.getLast?_eq_some_iff.mp hlast
        have hkept : ∀ line ∈ kept, '\n' ∉ line := fun line hline =>
          h line (List.mem_append_left _ hline)
        refine ⟨e, he, ?_⟩
        rw [List.dropLast_concat, Statement.block_join hkept, Statement.ofLines_append,
          Statement.ofLines_cons, hsingle]
        cases Statement.ofLines kept <;> rfl
      · cases heq
    · next kept heq =>
      split at heq
      · cases heq
      · cases heq
        exact hwhole

/-- The pieces of a cell without magic lines have its statements. -/
theorem block_pieces (source : String) :
    match pieces source with
    | (kept, some last) => ∃ e, Expr.ofText last = .ok e ∧
        Statement.block source.toList = (Statement.block (Lines.join kept)).map (· ++ [.evaluate e])
    | (kept, none) => Statement.block source.toList = Statement.block (Lines.join kept) := by
  have hlines : ∀ line ∈ dropBlankEnd (Lines.ofChars source.toList), '\n' ∉ line := by
    obtain ⟨blanks, happend, -⟩ := exists_dropBlankEnd_append (Lines.ofChars source.toList)
    intro line hline
    have hmem : line ∈ Lines.ofChars source.toList := by
      rw [happend]
      exact List.mem_append_left _ hline
    exact Lines.newline_not_mem hmem
  have hparts := ofLines_parts hlines
  rw [ofLines_dropBlankEnd] at hparts
  exact hparts

section

variable (rc : Script.Caller Bench) (k : Nat)

/-- Without magic lines a cell is split as its own lines say. -/
theorem run_prepare_of_plain {marker : Char}
    (handler : String → String → Exec Session Directive) {source : String}
    (h : ∀ line ∈ Lines.ofChars source.toList, line.head? ≠ some marker) (w : Session) :
    ∃ v, (prepare (Bench.machine rc (.scripted k)) marker handler source).run w =
      (.ok ([], pieces source), v) := by
  obtain ⟨v, hv⟩ := run_splitTail rc k (dropBlankEnd (Lines.ofChars source.toList)) w
  refine ⟨v, ?_⟩
  unfold prepare
  rw [Exec.run_bind_of_ok (run_read_of_plain handler h w)]
  dsimp only
  rw [Exec.run_bind_of_ok hv]
  rfl

/-- **The pieces of a cell have its statements.** A cell is split into pieces, and these are run.
When no line starts with the marker, no handler runs. A line that is split off is an expression, the
statements of the cell are those of the other lines and the one that evaluates it, and the cell
cannot be read exactly when the other lines cannot, for the same reason. Without such a line the
cell is read as the lines that are run. -/
theorem statements_pieces (c : Context) (marker : Char)
    (handler : String → String → Exec Session Directive) (source : String)
    (h : ∀ line ∈ Lines.ofChars source.toList, line.head? ≠ some marker) :
    run (Bench.machine rc (.scripted k)) c source marker handler = (do
        let _ ← Capture.start (Bench.machine rc (.scripted k)) c
        let _ ← Capture.drain (Bench.machine rc (.scripted k)) c
        let (handled, lines, tail) ← prepare (Bench.machine rc (.scripted k)) marker handler source
        conclude (Bench.machine rc (.scripted k)) c handled lines tail) ∧
      (∀ w, ∃ v, (prepare (Bench.machine rc (.scripted k)) marker handler source).run w =
        (.ok ([], pieces source), v)) ∧
      match pieces source with
      | (kept, some last) => ∃ e, Expr.ofText last = .ok e ∧
          Statement.block source.toList =
            (Statement.block (Lines.join kept)).map (· ++ [.evaluate e])
      | (kept, none) => Statement.block source.toList = Statement.block (Lines.join kept) :=
  ⟨run_eq _ c source marker handler, run_prepare_of_plain rc k handler h, block_pieces source⟩

end

/-- An assignment and a name on a line that ends with a carriage return, with a blank line after
them. -/
def assigned : String := "x = 1\nx\r\n  "

/-- The name is split off. -/
theorem statements_pieces_assigned :
    (∀ line ∈ Lines.ofChars assigned.toList, line.head? ≠ some defaultMarker) ∧
      (∀ w, ∃ v, (prepare ((Recursion.level 0).machine (.scripted 0)) defaultMarker
        (fun directive _ => return Handler.unknown directive) assigned).run w =
          (.ok ([], [['x', ' ', '=', ' ', '1']], some ['x']), v)) ∧
      ∃ e, Expr.ofText ['x'] = .ok e ∧
        Statement.block assigned.toList =
          (Statement.block ['x', ' ', '=', ' ', '1']).map (· ++ [.evaluate e]) := by
  have h : ∀ line ∈ Lines.ofChars assigned.toList, line.head? ≠ some defaultMarker := by decide
  have hpieces : pieces assigned = ([['x', ' ', '=', ' ', '1']], some ['x']) := by
    decide +kernel
  have hall := statements_pieces (Recursion.level 0).call 0
    ⟨0, .scripted 0, 0, true, defaultMarker⟩ defaultMarker
    (fun directive _ => return Handler.unknown directive) assigned h
  rw [hpieces] at hall
  exact ⟨h, hall.2⟩

end Cell

end ClosureBridge
