import ClosureBridge.Capture
import ClosureBridge.Script.Statement

/-!
# Reading calls of names

The reader of expressions on names and on calls of names, whatever names they are.

## Main definitions

* `Script.isName`: a text that is read as a name and is no reserved word.
* `Script.Scan.spellsName`: a text of characters that a name may be made of.
* `Script.mapping`: the source that calls an object with each item of another and lists the results.

## Main statements

* `Script.Scan.tokens_of_isName`: a name at the beginning of a text is one token.
* `Script.Parser.expr_call`: a call of a name is read once its arguments are.
* `Script.Expr.ofText_mapping`: what the source of a mapping is read as.
-/

namespace ClosureBridge.Script

/-- A text that is read as a name and is no reserved word. -/
def isName (s : String) : Bool :=
  !Parser.isReserved s &&
    match s.toList with
    | [] => false
    | c :: rest =>
      !Category.isBlank c && !c.isDigit && Scan.isNameStart c && rest.all Scan.isNamePart

theorem not_isReserved_of_isName {s : String} (h : isName s = true) :
    Parser.isReserved s = false := by
  have hs := (Bool.and_eq_true_iff.mp h).1
  rwa [Bool.not_eq_true'] at hs

theorem nul_not_mem_of_isName {s : String} (h : isName s = true) : '\x00' ∉ s.toList := by
  have hs := (Bool.and_eq_true_iff.mp h).2
  intro hmem
  split at hs
  · cases hs
  · next c rest hc =>
    simp only [Bool.and_eq_true] at hs
    obtain ⟨⟨-, hstart⟩, hrest⟩ := hs
    rw [hc] at hmem
    rcases List.mem_cons.mp hmem with rfl | hmem
    · exact absurd hstart (by decide)
    · exact absurd (List.all_eq_true.mp hrest _ hmem) (by decide)

/-! ### Tokens -/

namespace Scan

variable {s : String} {c : Char} {read more rest : List Char}

/-- A name that has been begun ends where something follows that is no part of it. -/
theorem tokens_name (hmore : more.all isNamePart = true) (hc : isNamePart c = false) :
    tokens (.name read) (more ++ c :: rest) =
      (tokens .ready (c :: rest)).map
        fun ts => .name (String.ofList (read.reverse ++ more)) :: ts := by
  induction more generalizing read with
  | nil =>
    have hstep : step (.name read) c = restart (.name read) c := by
      rw [step, hc]
      exact if_neg Bool.false_ne_true
    rw [List.nil_append, List.append_nil, tokens, tokens, hstep, restart, step]
    cases start c with
    | error e => rfl
    | ok r =>
      change (do
        let ts ← tokens r.2 rest
        return (.name (String.ofList read.reverse) :: r.1 ++ ts) : Except SyntaxFault _) =
          Except.map _ (do
            let ts ← tokens r.2 rest
            return r.1 ++ ts)
      cases tokens r.2 rest <;> rfl
  | cons d more ih =>
    obtain ⟨hd, hmore⟩ := Bool.and_eq_true_iff.mp hmore
    rw [List.cons_append, tokens, step, if_pos hd]
    change (do
      let ts ← tokens (.name (d :: read)) (more ++ c :: rest)
      return [] ++ ts : Except SyntaxFault _) = _
    rw [ih hmore, List.reverse_cons, List.append_assoc]
    cases tokens .ready (c :: rest) <;> rfl

/-- A text that is one token that is a name, a reserved word among them. -/
def spellsName : List Char → Bool
  | [] => false
  | c :: rest => !Category.isBlank c && !c.isDigit && isNameStart c && rest.all isNamePart

theorem spellsName_of_isName (hs : isName s = true) : spellsName s.toList = true :=
  (Bool.and_eq_true_iff.mp hs).2

/-- A name or a reserved word at the beginning of a text is one token. -/
theorem tokens_of_spellsName (hs : spellsName s.toList = true) (hc : isNamePart c = false) :
    tokens .ready (s.toList ++ c :: rest) =
      (tokens .ready (c :: rest)).map fun ts => .name s :: ts := by
  unfold spellsName at hs
  split at hs
  · cases hs
  · next d more hd =>
    simp only [Bool.and_eq_true, Bool.not_eq_true'] at hs
    obtain ⟨⟨⟨hblank, hdigit⟩, hstart⟩, hmore⟩ := hs
    have hbegin : start d = .ok ([], .name [d]) := by
      simp [start, hblank, hdigit, hstart]
    have hname : String.ofList ([d].reverse ++ more) = s := by
      change String.ofList (d :: more) = s
      rw [← hd, String.ofList_toList]
    rw [hd, List.cons_append, tokens, step, hbegin]
    change (do
      let ts ← tokens (.name [d]) (more ++ c :: rest)
      return [] ++ ts : Except SyntaxFault _) = _
    rw [tokens_name hmore hc, hname]
    cases tokens .ready (c :: rest) <;> rfl

/-- A name at the beginning of a text is one token. -/
theorem tokens_of_isName (hs : isName s = true) (hc : isNamePart c = false) :
    tokens .ready (s.toList ++ c :: rest) =
      (tokens .ready (c :: rest)).map fun ts => .name s :: ts :=
  tokens_of_spellsName (spellsName_of_isName hs) hc

theorem tokens_symbol {t : Symbol} (h : start c = .ok ([.symbol t], .ready)) :
    tokens .ready (c :: rest) = (tokens .ready rest).map fun ts => .symbol t :: ts := by
  rw [tokens, step, h]
  change (do
    let ts ← tokens .ready rest
    return [.symbol t] ++ ts : Except SyntaxFault _) = _
  cases tokens .ready rest <;> rfl

theorem tokens_blank (h : Category.isBlank c = true) :
    tokens .ready (c :: rest) = tokens .ready rest := by
  rw [tokens, step, start, if_pos h]
  change (do
    let ts ← tokens .ready rest
    return [] ++ ts : Except SyntaxFault _) = _
  cases tokens .ready rest <;> rfl

end Scan

/-! ### Expressions -/

namespace Parser

/-- Whether an expression ends before the tokens that are left. -/
def closes : List Token → Bool
  | [] => true
  | .symbol .comma :: _ => true
  | .symbol .closeRound :: _ => true
  | .symbol .closeSquare :: _ => true
  | _ => false

variable {n : Nat} {x y : String} {e e' : Expr} {args : List Expr} {tokens more rest : List Token}

theorem moreTerm_of_closes (h : closes rest = true) : moreTerm (n + 1) e rest = .ok (e, rest) := by
  unfold closes at h
  split at h <;> first | rfl | cases h

theorem moreSum_of_closes (h : closes rest = true) : moreSum (n + 1) e rest = .ok (e, rest) := by
  unfold closes at h
  split at h <;> first | rfl | cases h

theorem postfixes_of_closes (h : closes rest = true) :
    postfixes (n + 1) e rest = .ok (e, rest) := by
  unfold closes at h
  split at h <;> first | rfl | cases h

/-- An expression that starts with a name is what calls make of the name. -/
theorem expr_of_postfixes (hx : isReserved x = false) (hrest : closes rest = true)
    (h : postfixes (n + 1) (.name x) tokens = .ok (e, rest)) :
    expr (n + 5) (.name x :: tokens) = .ok (e, rest) := by
  have hunary : unary (n + 2) (.name x :: tokens) = .ok (e, rest) := by
    rw [unary, atom, hx, if_neg Bool.false_ne_true]
    · exact h
    · rintro _ ⟨⟩
  have hterm : term (n + 3) (.name x :: tokens) = .ok (e, rest) := by
    rw [term, hunary]
    exact moreTerm_of_closes hrest
  have hsum : Parser.sum (n + 4) (.name x :: tokens) = .ok (e, rest) := by
    rw [Parser.sum, hterm]
    exact moreSum_of_closes hrest
  rw [expr, hsum]
  · unfold closes at hrest
    split at hrest <;> first | rfl | cases hrest
  · rintro _ ⟨⟩
    cases hx

theorem expr_name (hx : isReserved x = false) (hrest : closes rest = true) :
    expr (n + 5) (.name x :: rest) = .ok (.name x, rest) :=
  expr_of_postfixes hx hrest (postfixes_of_closes hrest)

/-- A call of a name is read once its arguments are. -/
theorem expr_call (hx : isReserved x = false) (hrest : closes rest = true)
    (h : items (n + 1) .closeRound tokens = .ok (args, rest)) :
    expr (n + 6) (.name x :: .symbol .openRound :: tokens) = .ok (.call (.name x) args, rest) := by
  refine expr_of_postfixes hx hrest ?_
  rw [postfixes, h]
  exact postfixes_of_closes hrest

theorem someItems_last (h : expr n (.name x :: tokens) = .ok (e, .symbol .closeRound :: rest)) :
    someItems (n + 1) .closeRound (.name x :: tokens) = .ok ([e], rest) := by
  rw [someItems, h]
  rfl

/-- One argument that starts with a name. -/
theorem items_one (h : expr n (.name x :: tokens) = .ok (e, .symbol .closeRound :: rest)) :
    items (n + 2) .closeRound (.name x :: tokens) = .ok ([e], rest) := by
  rw [items]
  exact someItems_last h

/-- Two arguments that each start with a name. -/
theorem items_two
    (h : expr (n + 1) (.name x :: tokens) = .ok (e, .symbol .comma :: .name y :: more))
    (h' : expr n (.name y :: more) = .ok (e', .symbol .closeRound :: rest)) :
    items (n + 3) .closeRound (.name x :: tokens) = .ok ([e, e'], rest) := by
  rw [items]
  change someItems (n + 2) .closeRound (.name x :: tokens) = _
  rw [someItems, h]
  change (someItems (n + 1) .closeRound (.name y :: more) >>= fun r =>
    .ok (e :: r.1, r.2)) = _
  rw [someItems_last h']
  rfl

end Parser

/-! ### The source of a mapping -/

/-- The source that calls what a name stands for with each item of what another stands for, and
lists the results. -/
def mapping (h x : String) : String :=
  "list(map(" ++ h ++ ", " ++ x ++ "))"

/-- The tokens of a mapping. -/
def mappingTokens (h x : String) : List Token := [
  .name "list", .symbol .openRound, .name "map", .symbol .openRound, .name h, .symbol .comma,
  .name x, .symbol .closeRound, .symbol .closeRound]

/-- The expression that a mapping is. -/
def mappingExpr (h x : String) : Expr :=
  .call (.name "list") [.call (.name "map") [.name h, .name x]]

variable {h x : String}

theorem toList_mapping (h x : String) :
    (mapping h x).toList = "list".toList ++ '(' :: ("map".toList ++
      '(' :: (h.toList ++ ',' :: ' ' :: (x.toList ++ [')', ')']))) := by
  simp [mapping]

theorem trim_mapping (h x : String) :
    Margin.trim (mapping h x).toList = (mapping h x).toList := by
  obtain ⟨middle, hmiddle⟩ : ∃ middle, (mapping h x).toList = 'l' :: middle ++ [')'] :=
    ⟨"ist(map(".toList ++ h.toList ++ ", ".toList ++ x.toList ++ [')'], by simp [mapping]⟩
  have hl : Category.isBlank 'l' = false := by decide
  have hround : Category.isBlank ')' = false := by decide
  rw [hmiddle]
  simp [Margin.trim, Margin.trimStart, Margin.trimEnd, hl, hround]

theorem scan_mapping (hh : isName h = true) (hx : isName x = true) :
    Token.scan (mapping h x).toList = .ok (mappingTokens h x) := by
  have hround : Scan.isNamePart '(' = false := by decide
  rw [Token.scan, toList_mapping, Scan.tokens_of_isName (by decide) hround,
    Scan.tokens_symbol (t := .openRound) rfl, Scan.tokens_of_isName (by decide) hround,
    Scan.tokens_symbol (t := .openRound) rfl, Scan.tokens_of_isName hh (by decide),
    Scan.tokens_symbol (t := .comma) rfl, Scan.tokens_blank rfl,
    Scan.tokens_of_isName hx (by decide), Scan.tokens_symbol (t := .closeRound) rfl,
    Scan.tokens_symbol (t := .closeRound) rfl]
  rfl

/-- What the source of a mapping is read as. -/
theorem Expr.ofText_mapping (hh : isName h = true) (hx : isName x = true) :
    Expr.ofText (mapping h x).toList = .ok (mappingExpr h x) := by
  have hreserved := not_isReserved_of_isName hx
  -- The budget for the nine tokens is 80; each call takes six levels of it, its arguments two or
  -- three.
  have hargs : Parser.items 68 .closeRound [.name h, .symbol .comma, .name x,
      .symbol .closeRound, .symbol .closeRound] = .ok ([.name h, .name x], [.symbol .closeRound]) :=
    Parser.items_two (Parser.expr_name (not_isReserved_of_isName hh) rfl)
      (Parser.expr_name hreserved rfl)
  have hmap := Parser.expr_call (x := "map") rfl rfl hargs
  have hlist : Parser.expr (Parser.budget (mappingTokens h x)) (mappingTokens h x) =
    .ok (mappingExpr h x, []) := Parser.expr_call (x := "list") rfl rfl (Parser.items_one hmap)
  have htokens : Expr.ofTokens (mappingTokens h x) = .ok (mappingExpr h x) := by
    rw [Expr.ofTokens, hlist]
    rfl
  rw [Expr.ofText, trim_mapping, scan_mapping hh hx]
  exact htokens

/-- The source of a mapping is not the one that captures output. -/
theorem mapping_ne_source (h x : String) : (mapping h x == Capture.source) = false := by
  refine beq_eq_false_iff_ne.mpr fun heq => ?_
  -- One starts with an `l`, the other with an `i`.
  have hchars := congrArg String.toList heq
  rw [toList_mapping, Capture.source, String.intercalate_cons_of_ne_nil (List.cons_ne_nil _ _),
    String.toList_append, String.toList_append, List.append_assoc] at hchars
  exact absurd (List.cons.inj hchars).1 (by decide)

/-- The source of a mapping crosses the boundary. -/
theorem crosses_mapping (hh : isName h = true) (hx : isName x = true) :
    Image.crosses (mapping h x) = true := by
  have hnul := nul_not_mem_of_isName hh
  have hnul' := nul_not_mem_of_isName hx
  rw [Image.crosses, toList_mapping]
  simp [hnul, hnul']

end ClosureBridge.Script
