import ClosureBridge.Proofs.Cell.Split
import ClosureBridge.Proofs.Config.RoundTrip
import ClosureBridge.Proofs.Interpreter.Literal

/-!
# Markers and expressions

A line of a cell that starts with the marker is a directive, even if it is an expression. So a
configuration refuses letters, numbers and underscores as markers, which expressions start with. But
an expression may also start with a bracket, a minus sign or a quote, and those are accepted. Apart
from these five characters, no marker that is accepted hides an expression.

## Main definitions

* `Script.openers`: what an expression starts with besides words and numbers.
* `Cell.Compiles`: a line is an expression for a scripted interpreter.

## Main statements

* `Script.Expr.starts_of_ofText`: an expression starts with nothing else.
* `Cell.sublist_lines_of_read`: the lines of a cell that do not start with the marker are kept.
* `Config.marker_hides_iff`: which markers hide expressions.
* `Config.not_marker_never_hides`: an opening bracket does.
-/

namespace ClosureBridge

open Script (Expr)

/-- The first character of a text is no margin of it, unless it is a blank. -/
theorem Margin.trim_cons {c : Char} (hc : Category.isBlank c = false) (rest : List Char) :
    ∃ more, trim (c :: rest) = c :: more := by
  have hhead : (c :: rest).head?.any Category.isBlank = false := hc
  rw [trim, trimStart_of_head hhead, trimEnd, List.reverse_cons, List.dropWhile_append]
  split <;> simp [hc]

/-! ### What an expression starts with -/

namespace Script

/-- The characters that an expression starts with, besides those of words and numbers. -/
def openers : List Char :=
  ['(', '[', '-', '\'', '"']

theorem Symbol.mem_openers_of_ofChar? {c : Char} {s : Symbol} (h : ofChar? c = some s)
    (hs : Nonterminal.opens .expr (.symbol s) = true) : c ∈ openers := by
  unfold ofChar? at h
  split at h <;> cases h <;> first | decide | exact absurd hs (by decide)

namespace Scan

/-- The token that is scanned first is the first one. -/
theorem exists_cons_of_map {t : Token} {later : Except SyntaxFault (List Token)}
    {tokens : List Token} (h : later.map ([t] ++ ·) = .ok tokens) : ∃ more, tokens = t :: more := by
  cases later with
  | error e => cases h
  | ok more =>
    cases h
    exact ⟨more, rfl⟩

/-- After an equals sign there is one token or another, and neither starts an expression. -/
theorem exists_cons_of_equals {rest : List Char} {ts : List Token}
    (h : tokens .equals rest = .ok ts) :
    ∃ s more, ts = .symbol s :: more ∧ Nonterminal.opens .expr (.symbol s) = false := by
  by_cases hhead : rest.head? = some '='
  · obtain ⟨more, rfl⟩ := List.head?_eq_some_iff.mp hhead
    have hstep : step .equals '=' = .ok ([.symbol .equal], .ready) := rfl
    rw [tokens_cons hstep] at h
    obtain ⟨later, rfl⟩ := exists_cons_of_map h
    exact ⟨.equal, later, rfl, rfl⟩
  · have hclose : close .equals = .ok [.symbol .assign] := rfl
    have hrestart : ∀ c ∈ rest.head?, step .equals c = restart .equals c := by
      intro c hc
      refine if_neg ?_
      rintro rfl
      exact hhead hc
    rw [tokens_of_close hclose hrestart] at h
    obtain ⟨later, rfl⟩ := exists_cons_of_map h
    exact ⟨.assign, later, rfl, rfl⟩

end Scan

/-- **An expression starts with a word, a number, a bracket, a minus sign or a quote.** -/
theorem Expr.starts_of_ofText {c : Char} {rest : List Char} {e : Expr}
    (hblank : Category.isBlank c = false) (h : ofText (c :: rest) = .ok e) :
    c.isDigit = true ∨ Scan.isNameStart c = true ∨ c ∈ openers := by
  by_cases hdigit : c.isDigit = true
  · exact .inl hdigit
  by_cases hname : Scan.isNameStart c = true
  · exact .inr (.inl hname)
  refine .inr (.inr ?_)
  by_cases hquote : c = '\'' ∨ c = '"'
  · rcases hquote with rfl | rfl <;> decide
  obtain ⟨more, htrim⟩ := Margin.trim_cons hblank rest
  rw [ofText, htrim] at h
  obtain ⟨tokens, hscan, hread⟩ := FileTree.exists_of_bind_eq_ok h
  have hopens := (derives_of_ofTokens hread).mayBe
  -- the token that comes first is a symbol, and few symbols start an expression
  by_cases hequals : c = '='
  · subst hequals
    have hstep : Scan.step .ready '=' = .ok ([], .equals) := rfl
    rw [Token.scan, Scan.tokens_skip hstep] at hscan
    obtain ⟨s, later, rfl, hs⟩ := Scan.exists_cons_of_equals hscan
    rw [Nonterminal.mayBe, hs] at hopens
    cases hopens
  · have hstart : Scan.step .ready c =
        (Symbol.ofChar? c).elim (.error .invalid) fun s => .ok ([.symbol s], .ready) := by
      simp only [Scan.step, Scan.start, hblank, hdigit, hname, hquote, hequals, if_false,
        Bool.false_eq_true]
      cases Symbol.ofChar? c <;> rfl
    cases hsymbol : Symbol.ofChar? c with
    | none =>
      rw [Token.scan, Scan.tokens, hstart, hsymbol] at hscan
      cases hscan
    | some s =>
      rw [hsymbol] at hstart
      rw [Token.scan, Scan.tokens_cons hstart] at hscan
      obtain ⟨later, rfl⟩ := Scan.exists_cons_of_map hscan
      exact Symbol.mem_openers_of_ofChar? hsymbol hopens

end Script

/-! ### The lines of a cell -/

namespace Cell

/-- A scripted interpreter compiles a line as an expression. -/
def Compiles (rc : Script.Caller Bench) (k : Nat) (w : Session) (line : List Char) : Prop :=
  ∃ v, (Context.compiles (Bench.machine rc (.scripted k)) (String.ofList line) .eval).run w =
    (.ok true, v)

variable {rc : Script.Caller Bench} {k : Nat} {w : Session} {line : List Char}

/-- A line compiles just when it has no NUL in it and is an expression. -/
theorem compiles_iff :
    Compiles rc k w line ↔ Image.crosses (String.ofList line) = true ∧ (Expr.ofText line).isOk := by
  obtain ⟨u, hu⟩ := run_isExpression rc k line w
  unfold isExpression at hu
  rw [Compiles, hu, ← Bool.and_eq_true]
  constructor
  · rintro ⟨v, hv⟩
    exact Except.ok.inj (Prod.mk.inj hv).1
  · intro h
    exact ⟨u, by rw [h]⟩

theorem exists_ofText_of_compiles (h : Compiles rc k w line) : ∃ e, Expr.ofText line = .ok e := by
  obtain ⟨-, hok⟩ := compiles_iff.mp h
  cases he : Expr.ofText line with
  | ok e => exact ⟨e, rfl⟩
  | error e =>
    rw [he] at hok
    cases hok

variable {ι : Type} {marker : Char} {handler : String → String → Exec (World ι) Directive}

/-- The lines of a cell that do not start with the marker are kept in their order, and none of them
is handled. -/
theorem sublist_lines_of_read {lines kept : List (List Char)} (hkept : kept.Sublist lines)
    (hplain : ∀ line ∈ kept, line.head? ≠ some marker) {w v : World ι} {reading : Reading}
    (h : (read marker handler lines).run w = (.ok reading, v)) :
    kept.Sublist reading.lines ∧ reading.handled.length + kept.length ≤ lines.length := by
  induction hkept generalizing w reading with
  | slnil =>
    cases h
    exact ⟨.slnil, Nat.le_refl 0⟩
  | @cons kept rest line hkept ih =>
    rw [read] at h
    cases hmagic : magic? marker line with
    | none =>
      rw [hmagic] at h
      obtain ⟨r, u, hrest, hr⟩ := Exec.exists_of_run_bind h
      cases hr
      obtain ⟨hlines, hlength⟩ := ih hplain hrest
      exact ⟨hlines.cons line, Nat.le_succ_of_le hlength⟩
    | some magic =>
      rw [hmagic] at h
      obtain ⟨outcome, u, -, h⟩ := Exec.exists_of_run_bind h
      obtain ⟨r, u', hrest, hr⟩ := Exec.exists_of_run_bind h
      cases hr
      obtain ⟨hlines, hlength⟩ := ih hplain hrest
      refine ⟨hlines.trans (List.sublist_append_right _ _), ?_⟩
      simp only [List.length_cons]
      omega
  | @cons_cons kept rest line hkept ih =>
    obtain ⟨hline, hplain⟩ := List.forall_mem_cons.mp hplain
    rw [read, magic?_of_head hline] at h
    obtain ⟨r, u, hrest, hr⟩ := Exec.exists_of_run_bind h
    cases hr
    obtain ⟨hlines, hlength⟩ := ih hplain hrest
    exact ⟨hlines.cons_cons line, Nat.succ_le_succ hlength⟩

end Cell

/-! ### Markers -/

namespace Config

variable {text : String} {config : Config}

theorem accepts_of_parse (h : parse text = .ok config) :
    accepts config.interactive.magicMarker = true := by
  unfold parse at h
  split at h
  · cases h
  · split at h
    · cases h
    · obtain ⟨rfl, hmarker⟩ := validate_eq_ok_iff.mp h
      exact hmarker

/-- Nothing that is accepted is a blank or starts a word or a number. -/
theorem of_accepts {c : Char} (h : accepts c = true) :
    Category.isBlank c = false ∧ c.isDigit = false ∧ Script.Scan.isNameStart c = false := by
  simp only [accepts, Category.isAlphanumeric, Bool.and_eq_true, Bool.not_eq_true',
    Bool.or_eq_false_iff, bne_iff_ne] at h
  obtain ⟨⟨⟨halphabetic, hnumeric⟩, hblank⟩, hunderscore⟩ := h
  refine ⟨hblank, Bool.eq_false_iff.mpr fun hdigit => ?_, ?_⟩
  · have hlt : c.toNat < 128 := Ident.toNat_lt_of_isTail (Ident.isTail_of_isDigit hdigit)
    rw [Category.isNumeric, if_pos hlt, hdigit] at hnumeric
    cases hnumeric
  · rw [Script.Scan.isNameStart, halphabetic, beq_false_of_ne hunderscore]
    rfl

/-- Each of the openers starts a line that is an expression. -/
theorem exists_compiles_of_mem_openers {c : Char} (h : c ∈ Script.openers)
    (rc : Script.Caller Bench) (k : Nat) (w : Session) :
    ∃ line, Cell.Compiles rc k w line ∧ line.head? = some c := by
  have hexpressions : ∀ c ∈ Script.openers, ∃ rest,
      Image.crosses (String.ofList (c :: rest)) = true ∧ (Expr.ofText (c :: rest)).isOk = true := by
    simp only [Script.openers, List.forall_mem_cons, List.not_mem_nil, false_implies, implies_true,
      and_true]
    exact ⟨⟨['1', ')'], by decide +kernel⟩, ⟨[']'], by decide +kernel⟩, ⟨['1'], by decide +kernel⟩,
      ⟨['\''], by decide +kernel⟩, ⟨['"'], by decide +kernel⟩⟩
  obtain ⟨rest, hrest⟩ := hexpressions c h
  exact ⟨c :: rest, Cell.compiles_iff.mpr hrest, rfl⟩

/-- **A marker that is accepted hides an expression just when it is a bracket, a minus sign or a
quote.** Whatever the text of the configuration, some line that a scripted interpreter compiles as
an expression starts with the marker just in that case. With any other marker the lines of a cell
that compile are kept in their order, and no handler is asked about them. -/
theorem marker_hides_iff (h : parse text = .ok config) (rc : Script.Caller Bench) (k : Nat)
    (w : Session) :
    ((∃ line, Cell.Compiles rc k w line ∧ line.head? = some config.interactive.magicMarker) ↔
      config.interactive.magicMarker ∈ Script.openers) ∧
    (config.interactive.magicMarker ∉ Script.openers →
      ∀ {ι : Type} (handler : String → String → Exec (World ι) Directive)
        {lines kept : List (List Char)} {u v : World ι} {reading : Cell.Reading},
        (Cell.read config.interactive.magicMarker handler lines).run u = (.ok reading, v) →
        kept.Sublist lines → (∀ line ∈ kept, Cell.Compiles rc k w line) →
        kept.Sublist reading.lines ∧ reading.handled.length + kept.length ≤ lines.length) := by
  have hopener {line : List Char} (hline : Cell.Compiles rc k w line)
      (hhead : line.head? = some config.interactive.magicMarker) :
      config.interactive.magicMarker ∈ Script.openers := by
    obtain ⟨rest, rfl⟩ := List.head?_eq_some_iff.mp hhead
    obtain ⟨e, he⟩ := Cell.exists_ofText_of_compiles hline
    obtain ⟨hblank, hdigit, hname⟩ := of_accepts (accepts_of_parse h)
    rcases Expr.starts_of_ofText hblank he with hc | hc | hc
    · exact absurd hc (Bool.eq_false_iff.mp hdigit)
    · exact absurd hc (Bool.eq_false_iff.mp hname)
    · exact hc
  refine ⟨⟨fun ⟨line, hline, hhead⟩ => hopener hline hhead, fun hmarker => ?_⟩, ?_⟩
  · exact exists_compiles_of_mem_openers hmarker rc k w
  · intro hmarker ι handler lines kept u v reading hread hkept hlines
    have hplain : ∀ line ∈ kept, line.head? ≠ some config.interactive.magicMarker :=
      fun line hline hhead => hmarker (hopener (hlines line hline) hhead)
    exact Cell.sublist_lines_of_read hkept hplain hread

/-- A configuration that sets the marker only. -/
def marking (marker : Char) : String :=
  "[interactive]\nmagic_marker = \"" ++ marker.toString ++ "\"\n"

/-- An exclamation mark hides no expression, and a cell with a directive in it keeps its other
lines. -/
theorem marker_hides_iff_exclaimed :
    parse (marking '!') = .ok { interactive := { magicMarker := '!' } } ∧
      (∀ line, Cell.Compiles (Recursion.level 0).call 0 Trial.fresh line →
        line.head? ≠ some '!') ∧
      (∀ line ∈ [['(', '1', ')'], ['-', '1']],
        Cell.Compiles (Recursion.level 0).call 0 Trial.fresh line) ∧
      ∃ reading, (Cell.read '!' (fun _ _ => return {})
          [['(', '1', ')'], ['!', 'x'], ['-', '1']] : Exec Session _).run Trial.fresh =
            (.ok reading, Trial.fresh) ∧
        [['(', '1', ')'], ['-', '1']].Sublist reading.lines ∧ reading.handled.length + 2 ≤ 3 := by
  have hparse : parse (marking '!') = .ok { interactive := { magicMarker := '!' } } := by
    decide +kernel
  have hlines : ∀ line ∈ [['(', '1', ')'], ['-', '1']],
      Cell.Compiles (Recursion.level 0).call 0 Trial.fresh line := by
    simp only [List.forall_mem_cons, List.not_mem_nil, false_implies, implies_true, and_true]
    exact ⟨Cell.compiles_iff.mpr (by decide +kernel), Cell.compiles_iff.mpr (by decide +kernel)⟩
  have hmarker : '!' ∉ Script.openers := by decide
  have hread : (Cell.read '!' (fun _ _ => return {})
      [['(', '1', ')'], ['!', 'x'], ['-', '1']] : Exec Session _).run Trial.fresh =
        (.ok ⟨[['(', '1', ')'], ['-', '1']], [⟨"x", "", {}⟩]⟩, Trial.fresh) := rfl
  obtain ⟨hiff, hkept⟩ := marker_hides_iff hparse (Recursion.level 0).call 0 Trial.fresh
  exact ⟨hparse, fun line hline hhead => hmarker (hiff.mp ⟨line, hline, hhead⟩), hlines, _, hread,
    hkept hmarker _ hread (by decide) hlines⟩

/-- An opening bracket is accepted as the marker, and hides an expression. -/
theorem not_marker_never_hides :
    ¬∀ (text : String) (config : Config), parse text = .ok config →
      ∀ (rc : Script.Caller Bench) (k : Nat) (w : Session) (line : List Char),
        Cell.Compiles rc k w line → line.head? ≠ some config.interactive.magicMarker := by
  intro h
  have hparse : parse (marking '(') = .ok { interactive := { magicMarker := '(' } } := by
    decide +kernel
  have hline : Cell.Compiles (Recursion.level 0).call 0 Trial.fresh ['(', '1', ')'] :=
    Cell.compiles_iff.mpr (by decide +kernel)
  exact h (marking '(') _ hparse _ _ _ _ hline rfl

end Config

end ClosureBridge
