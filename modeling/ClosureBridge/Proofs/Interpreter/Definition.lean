import ClosureBridge.Proofs.Capture.Drain
import ClosureBridge.Proofs.Cell.Split
import ClosureBridge.Proofs.Interpreter.Grammar
import ClosureBridge.Proofs.Interpreter.Reading
import ClosureBridge.SourceLambda

/-!
# Reading definitions

The statement that defines a lambda written as source text is read as a block. A block refuses a
line that ends with a colon before it is cut into tokens; so does the reader of expressions, which
never takes a colon as the last token. A definition on one line is therefore read exactly when its
right-hand side is read as an expression.

## Main definitions

* `Script.EndsOpen`: the last token is a colon.
* `Script.Parser.Leaves`: a reader leaves a colon at the end where it is.
* `SourceLambda.expression`: the expression that a text stands for.

## Main statements

* `Script.Scan.endsOpen_tokens`: a text that ends with a colon is cut into tokens that do.
* `Script.Parser.leavesOpen`: no reader of expressions takes a colon at the end.
* `SourceLambda.block_definition`: a definition on one line is one assignment, or cannot be read.
-/

namespace ClosureBridge

namespace Margin

/-- What neither starts nor ends with a blank has no margins. -/
theorem trim_of_edges {text : List Char} (hhead : text.head?.any Category.isBlank = false)
    (hlast : text.getLast?.any Category.isBlank = false) : trim text = text := by
  rw [trim, trimStart_of_head hhead, trimEnd]
  rw [List.getLast?_eq_head?_reverse] at hlast
  have hreverse : trimStart text.reverse = text.reverse := trimStart_of_head hlast
  rw [trimStart] at hreverse
  rw [hreverse, List.reverse_reverse]

/-- A text without blanks has no margins. -/
theorem trim_of_forall {text : List Char} (h : ∀ c ∈ text, Category.isBlank c = false) :
    trim text = text := by
  refine trim_of_edges ?_ ?_
  · rw [Option.any_eq_false]
    exact fun c hc => h c (List.mem_of_head? hc)
  · rw [Option.any_eq_false]
    exact fun c hc => h c (List.mem_of_getLast? hc)

/-- A text between two characters that are no blanks has no margins. -/
theorem trim_enclosed {c d : Char} (hc : Category.isBlank c = false)
    (hd : Category.isBlank d = false) (text : List Char) :
    trim (c :: (text ++ [d])) = c :: (text ++ [d]) := by
  refine trim_of_edges hc ?_
  rw [← List.cons_append, List.getLast?_concat]
  exact hd

/-- A text without margins does not end with a blank. -/
theorem getLast?_trim (text : List Char) :
    (trim text).getLast?.any Category.isBlank = false := by
  rw [trim, trimEnd, List.getLast?_reverse]
  have h := List.head?_dropWhile_not Category.isBlank (trimStart text).reverse
  generalize ((trimStart text).reverse.dropWhile Category.isBlank).head? = first at h ⊢
  cases first with
  | none => rfl
  | some c => exact h

theorem mem_of_mem_trim {c : Char} {text : List Char} (h : c ∈ trim text) : c ∈ text := by
  rw [trim, trimEnd, List.mem_reverse] at h
  have hstart : c ∈ trimStart text :=
    List.mem_reverse.mp ((List.dropWhile_suffix _).mem h)
  exact (List.dropWhile_suffix _).mem hstart

end Margin

namespace Script

/-- The last token is a colon. -/
def EndsOpen (tokens : List Token) : Prop :=
  tokens.getLast? = some (.symbol .colon)

theorem endsOpen_append {tokens : List Token} (h : EndsOpen tokens) (before : List Token) :
    EndsOpen (before ++ tokens) := by
  rw [EndsOpen, List.getLast?_append, h]
  rfl

/-- After the first token nothing is left, or tokens that end as before. -/
theorem eq_nil_or_endsOpen {t : Token} {rest : List Token} (h : EndsOpen (t :: rest)) :
    rest = [] ∨ EndsOpen rest := by
  cases rest with
  | nil => exact .inl rfl
  | cons t' rest => exact .inr (by simpa [EndsOpen, List.getLast?_cons_cons] using h)

theorem endsOpen_of_cons {t : Token} {rest : List Token} (h : EndsOpen (t :: rest))
    (ht : t ≠ .symbol .colon) : EndsOpen rest := by
  rcases eq_nil_or_endsOpen h with rfl | hrest
  · exact absurd (Option.some.inj h) ht
  · exact hrest

/-! ### Tokens -/

namespace Scan

/-- The machine is not inside a literal that a colon would end. -/
def State.Quoted : State → Prop
  | .text quote _ => quote ≠ ':'
  | .escape quote _ => quote ≠ ':'
  | _ => True

theorem quoted_start {c : Char} {done : List Token} {next : State}
    (h : start c = .ok (done, next)) : next.Quoted := by
  unfold start at h
  split at h
  · cases h
    trivial
  split at h
  · cases h
    trivial
  split at h
  · cases h
    trivial
  split at h
  · next hc =>
    cases h
    rintro rfl
    exact absurd hc (by decide)
  split at h
  · cases h
    trivial
  split at h
  · cases h
    trivial
  · cases h

theorem quoted_restart {s : State} {c : Char} {done : List Token} {next : State}
    (h : restart s c = .ok (done, next)) : next.Quoted := by
  unfold restart at h
  cases hclose : close s with
  | error e =>
    rw [hclose] at h
    cases h
  | ok ended =>
    cases hstart : start c with
    | error e =>
      rw [hclose, hstart] at h
      cases h
    | ok r =>
      rw [hclose, hstart] at h
      cases h
      exact quoted_start hstart

theorem quoted_step {s : State} {c : Char} {done : List Token} {next : State} (hs : s.Quoted)
    (h : step s c = .ok (done, next)) : next.Quoted := by
  unfold step at h
  split at h
  · exact quoted_start h
  · split at h
    · cases h
      trivial
    · exact quoted_restart h
  · split at h
    · cases h
      trivial
    · exact quoted_restart h
  · split at h
    · cases h
      trivial
    · split at h <;> cases h <;> exact hs
  · cases h
    exact hs
  · split at h
    · cases h
      trivial
    · exact quoted_restart h

/-- A colon ends what goes before it and is a token of its own, unless a literal is not closed. -/
theorem endsOpen_colon {s : State} {ts : List Token} (hs : s.Quoted)
    (h : tokens s [':'] = .ok ts) : EndsOpen ts := by
  have hrestart {s : State} (h : (restart s ':' >>= fun r =>
      tokens r.2 [] >>= fun more => .ok (r.1 ++ more)) = .ok ts) : EndsOpen ts := by
    unfold restart at h
    cases hclose : close s with
    | error e =>
      rw [hclose] at h
      cases h
    | ok ended =>
      rw [hclose] at h
      cases h
      simp [EndsOpen]
  unfold tokens step at h
  cases s with
  | ready =>
    cases h
    rfl
  | number read => exact hrestart h
  | name read => exact hrestart h
  | text quote read =>
    dsimp only at h
    rw [if_neg (Ne.symm hs)] at h
    cases h
  | escape quote read => cases h
  | equals => exact hrestart h

/-- An equals sign that no other follows is a token of its own. -/
theorem tokens_assign {c : Char} (hc : c ≠ '=') (rest : List Char) :
    tokens .ready ('=' :: c :: rest) =
      (tokens .ready (c :: rest)).map fun ts => .symbol .assign :: ts := by
  have hstep : step .equals c = restart .equals c := if_neg hc
  change (do
    let ts ← tokens .equals (c :: rest)
    return [] ++ ts : Except SyntaxFault _) = _
  rw [tokens, tokens, hstep, restart, step]
  cases start c with
  | error e => rfl
  | ok r =>
    change (do
      let ts ← (do
        let ts ← tokens r.2 rest
        return (.symbol .assign :: r.1 ++ ts))
      return [] ++ ts : Except SyntaxFault _) = Except.map _ (do
        let ts ← tokens r.2 rest
        return r.1 ++ ts)
    cases tokens r.2 rest <;> rfl

/-- The keyword of a lambda at the beginning of a text is one token. -/
theorem tokens_keyword (rest : List Char) :
    tokens .ready (SourceLambda.keyword.toList ++ ' ' :: rest) =
      (tokens .ready rest).map fun ts => .name SourceLambda.keyword :: ts := by
  have hname := @tokens_name ' ' ['l'] "ambda".toList rest (by decide) (by decide)
  rw [tokens_blank rfl] at hname
  change (do
    let ts ← tokens (.name ['l']) ("ambda".toList ++ ' ' :: rest)
    return [] ++ ts : Except SyntaxFault _) = _
  rw [hname]
  cases tokens .ready rest <;> rfl

/-- A text that ends with a colon is cut into tokens that do. -/
theorem endsOpen_tokens {s : State} {text : List Char} {ts : List Token} (hs : s.Quoted)
    (h : tokens s (text ++ [':']) = .ok ts) : EndsOpen ts := by
  induction text generalizing s ts with
  | nil => exact endsOpen_colon hs h
  | cons c rest ih =>
    rw [List.cons_append, tokens] at h
    cases hstep : step s c with
    | error e =>
      rw [hstep] at h
      cases h
    | ok r =>
      obtain ⟨done, next⟩ := r
      rw [hstep] at h
      cases hrest : tokens next (rest ++ [':']) with
      | error e =>
        simp only [hrest, bind, Except.bind] at h
        cases h
      | ok more =>
        simp only [hrest, bind, Except.bind] at h
        cases h
        exact endsOpen_append (ih (quoted_step hs hstep) hrest) done

end Scan

/-! ### Expressions -/

namespace Parser

/-- What a reader makes of tokens that end with a colon, if anything, leaves tokens that do. -/
def Leaves {α : Type} (tokens : List Token) (r : Except SyntaxFault (α × List Token)) : Prop :=
  ∀ a rest, r = .ok (a, rest) → EndsOpen tokens → EndsOpen rest

namespace Leaves

variable {α β : Type} {t : Token} {tokens : List Token} {e : SyntaxFault}

theorem ok (a : α) (tokens : List Token) : Leaves tokens (.ok (a, tokens)) := by
  rintro _ _ ⟨⟩ h
  exact h

theorem error (tokens : List Token) : Leaves tokens (.error e : Except SyntaxFault (α × _)) :=
  nofun

/-- A token that is no colon is passed. -/
theorem cons {r : Except SyntaxFault (α × List Token)} (h : Leaves tokens r)
    (ht : t ≠ .symbol .colon) : Leaves (t :: tokens) r :=
  fun a rest hr hopen => h a rest hr (endsOpen_of_cons hopen ht)

/-- A reader and one that goes on with what it leaves. -/
theorem bind {r : Except SyntaxFault (α × List Token)}
    {f : α × List Token → Except SyntaxFault (β × List Token)} (h : Leaves tokens r)
    (hf : ∀ a rest, Leaves rest (f (a, rest))) : Leaves tokens (r >>= f) := by
  intro b left hb hopen
  cases hr : r with
  | error e =>
    rw [hr] at hb
    cases hb
  | ok p =>
    obtain ⟨a, rest⟩ := p
    rw [hr] at hb
    exact hf a rest b left hb (h a rest hr hopen)

/-- A symbol that is no colon is expected, and something else goes on after it. -/
theorem expect {s : Symbol} (hs : s ≠ .colon)
    {f : List Token → Except SyntaxFault (β × List Token)} (hf : ∀ rest, Leaves rest (f rest)) :
    Leaves tokens (Parser.expect s tokens >>= f) := by
  intro b left hb hopen
  unfold Parser.expect at hb
  split at hb
  · next t rest =>
    by_cases ht : t = s
    · rw [if_pos ht] at hb
      subst ht
      exact hf rest b left hb (endsOpen_of_cons hopen (by simpa using hs))
    · rw [if_neg ht] at hb
      cases hb
  · cases hb

end Leaves

/-- The parameters of a lambda end with a colon, which may be the last token. -/
theorem moreParams_eq_nil_or {tokens rest : List Token} {ps : List String}
    (h : moreParams tokens = .ok (ps, rest)) (hopen : EndsOpen tokens) :
    rest = [] ∨ EndsOpen rest := by
  fun_induction moreParams tokens generalizing ps with
  | case1 after =>
    cases h
    exact eq_nil_or_endsOpen hopen
  | case2 p after ih =>
    cases hmore : moreParams after with
    | error e =>
      rw [hmore] at h
      cases h
    | ok r =>
      rw [hmore] at h
      cases h
      exact ih hmore (endsOpen_of_cons (endsOpen_of_cons hopen (by simp)) (by simp))
  | case3 => cases h
  | case4 => cases h

theorem params_eq_nil_or {tokens rest : List Token} {ps : List String}
    (h : params tokens = .ok (ps, rest)) (hopen : EndsOpen tokens) :
    rest = [] ∨ EndsOpen rest := by
  unfold params at h
  split at h
  · next after =>
    cases h
    exact eq_nil_or_endsOpen hopen
  · next p after =>
    cases hmore : moreParams after with
    | error e =>
      rw [hmore] at h
      cases h
    | ok r =>
      rw [hmore] at h
      cases h
      exact moreParams_eq_nil_or hmore (endsOpen_of_cons hopen (by simp))
  · cases h

/-- No expression is read where nothing is left. -/
theorem expr_nil (n : Nat) (r : Expr × List Token) : expr n [] ≠ .ok r := by
  intro h
  rcases n with _ | _ | _ | _ | _ | _ | n <;> cases h

/-- The readers with a budget leave a colon at the end where it is. -/
structure LeavesOpen (n : Nat) : Prop where
  expr : ∀ tokens, Leaves tokens (Parser.expr n tokens)
  sum : ∀ tokens, Leaves tokens (Parser.sum n tokens)
  moreSum : ∀ a tokens, Leaves tokens (Parser.moreSum n a tokens)
  term : ∀ tokens, Leaves tokens (Parser.term n tokens)
  moreTerm : ∀ a tokens, Leaves tokens (Parser.moreTerm n a tokens)
  unary : ∀ tokens, Leaves tokens (Parser.unary n tokens)
  postfixes : ∀ e tokens, Leaves tokens (Parser.postfixes n e tokens)
  items : ∀ close tokens, close ≠ .colon → Leaves tokens (Parser.items n close tokens)
  someItems : ∀ close tokens, close ≠ .colon → Leaves tokens (Parser.someItems n close tokens)
  atom : ∀ tokens, Leaves tokens (Parser.atom n tokens)

namespace LeavesOpen

variable {n : Nat}

theorem zero : LeavesOpen 0 where
  expr _ := .error _
  sum _ := .error _
  moreSum _ _ := .error _
  term _ := .error _
  moreTerm _ _ := .error _
  unary _ := .error _
  postfixes _ _ := .error _
  items _ _ _ := .error _
  someItems _ _ _ := .error _
  atom _ := .error _

/-- A lambda takes the colon after its parameters; its body then needs a token. -/
theorem expr_succ (h : LeavesOpen n) (tokens : List Token) :
    Leaves tokens (Parser.expr (n + 1) tokens) := by
  unfold Parser.expr
  split
  · next h0 => cases h0
  · next rest heq =>
    cases heq
    intro a left ha hopen
    cases hparams : params rest with
    | error e =>
      rw [hparams] at ha
      cases ha
    | ok r =>
      obtain ⟨ps, after⟩ := r
      rw [hparams] at ha
      have hrest : EndsOpen rest := endsOpen_of_cons hopen (by simp)
      rcases params_eq_nil_or hparams hrest with rfl | hafter
      · cases hbody : Parser.expr n [] with
        | error e =>
          simp only [bind, Except.bind, hbody] at ha
          cases ha
        | ok r => exact absurd hbody (expr_nil n r)
      · have hbody : Leaves after (Parser.expr n after >>= fun r =>
            .ok (Expr.lambda ps r.1, r.2)) := (h.expr after).bind fun _ _ => .ok _ _
        exact hbody a left ha hafter
  · next heq _ =>
    cases heq
    refine (h.sum _).bind fun a rest => ?_
    dsimp only
    split
    · exact .cons ((h.sum _).bind fun _ _ => .ok _ _) (by simp)
    · exact .ok _ _

theorem moreSum_succ (h : LeavesOpen n) (a : Expr) (tokens : List Token) :
    Leaves tokens (Parser.moreSum (n + 1) a tokens) := by
  unfold Parser.moreSum
  split
  · exact .error _
  · next heq =>
    cases heq
    exact .cons ((h.term _).bind fun _ _ => h.moreSum _ _) (by simp)
  · exact .ok _ _

theorem moreTerm_succ (h : LeavesOpen n) (a : Expr) (tokens : List Token) :
    Leaves tokens (Parser.moreTerm (n + 1) a tokens) := by
  unfold Parser.moreTerm
  split
  · exact .error _
  · next heq =>
    cases heq
    exact .cons ((h.unary _).bind fun _ _ => h.moreTerm _ _) (by simp)
  · next heq =>
    cases heq
    exact .cons ((h.unary _).bind fun _ _ => h.moreTerm _ _) (by simp)
  · exact .ok _ _

theorem unary_succ (h : LeavesOpen n) (tokens : List Token) :
    Leaves tokens (Parser.unary (n + 1) tokens) := by
  unfold Parser.unary
  split
  · exact .error _
  · next heq =>
    cases heq
    exact .cons ((h.unary _).bind fun _ _ => .ok _ _) (by simp)
  · next heq _ =>
    cases heq
    exact (h.atom _).bind fun _ _ => h.postfixes _ _

theorem postfixes_succ (h : LeavesOpen n) (e : Expr) (tokens : List Token) :
    Leaves tokens (Parser.postfixes (n + 1) e tokens) := by
  unfold Parser.postfixes
  split
  · exact .error _
  · next heq =>
    cases heq
    exact .cons ((h.items _ _ (by simp)).bind fun _ _ => h.postfixes _ _) (by simp)
  · next heq =>
    cases heq
    refine .cons (.cons (.expect (by simp) fun rest => ?_) (by simp)) (by simp)
    exact (h.items _ _ (by simp)).bind fun _ _ => h.postfixes _ _
  · exact .error _
  · exact .ok _ _

theorem items_succ (h : LeavesOpen n) (close : Symbol) (tokens : List Token)
    (hclose : close ≠ .colon) : Leaves tokens (Parser.items (n + 1) close tokens) := by
  unfold Parser.items
  split
  · next rest hrest =>
    have hexpect : Leaves tokens (expect close tokens >>= fun rest =>
        .ok (([] : List Expr), rest)) :=
      .expect hclose fun rest => .ok _ _
    rw [hrest] at hexpect
    exact hexpect
  · exact h.someItems close tokens hclose

theorem someItems_succ (h : LeavesOpen n) (close : Symbol) (tokens : List Token)
    (hclose : close ≠ .colon) : Leaves tokens (Parser.someItems (n + 1) close tokens) := by
  unfold Parser.someItems
  refine (h.expr tokens).bind fun e after => ?_
  dsimp only
  split
  · next rest hrest =>
    have hexpect : Leaves after (expect close after >>= fun rest => .ok ([e], rest)) :=
      .expect hclose fun rest => .ok _ _
    rw [hrest] at hexpect
    exact hexpect
  · exact .expect (by simp) fun rest =>
      (h.someItems close rest hclose).bind fun _ _ => .ok _ _

theorem atom_succ (h : LeavesOpen n) (tokens : List Token) :
    Leaves tokens (Parser.atom (n + 1) tokens) := by
  unfold Parser.atom
  split
  · exact .error _
  · exact .error _
  · exact .cons (.ok _ _) (by simp)
  · exact .cons (.ok _ _) (by simp)
  · exact .cons (.ok _ _) (by simp)
  · split
    · exact .error _
    · exact .cons (.ok _ _) (by simp)
  · next heq =>
    cases heq
    refine .cons ((h.expr _).bind fun e after => ?_) (by simp)
    exact .expect (by simp) fun rest => .ok _ _
  · next heq =>
    cases heq
    exact .cons ((h.items _ _ (by simp)).bind fun _ _ => .ok _ _) (by simp)
  · exact .error _

theorem succ (h : LeavesOpen n) : LeavesOpen (n + 1) where
  expr := h.expr_succ
  sum tokens := by
    unfold Parser.sum
    exact (h.term tokens).bind fun _ _ => h.moreSum _ _
  moreSum := h.moreSum_succ
  term tokens := by
    unfold Parser.term
    exact (h.unary tokens).bind fun _ _ => h.moreTerm _ _
  moreTerm := h.moreTerm_succ
  unary := h.unary_succ
  postfixes := h.postfixes_succ
  items := h.items_succ
  someItems := h.someItems_succ
  atom := h.atom_succ

end LeavesOpen

/-- No reader of expressions takes a colon at the end. -/
theorem leavesOpen (n : Nat) : LeavesOpen n := by
  induction n with
  | zero => exact .zero
  | succ n ih => exact ih.succ

end Parser

/-- Tokens that end with a colon make up no expression. -/
theorem Expr.ofTokens_of_endsOpen {tokens : List Token} (h : EndsOpen tokens) (e : Expr) :
    Expr.ofTokens tokens ≠ .ok e := by
  intro he
  unfold Expr.ofTokens at he
  cases hr : Parser.expr (Parser.budget tokens) tokens with
  | error e =>
    rw [hr] at he
    cases he
  | ok r =>
    obtain ⟨a, rest⟩ := r
    have hrest : EndsOpen rest := (Parser.leavesOpen _).expr tokens a rest hr h
    rw [hr] at he
    cases rest with
    | nil => cases hrest
    | cons t rest => cases he

/-- What starts with the keyword of a lambda is one. -/
theorem Expr.exists_lambda_of_ofTokens {rest : List Token} {e : Expr}
    (h : Expr.ofTokens (.name "lambda" :: rest) = .ok e) : ∃ ps body, e = .lambda ps body := by
  have hb : Parser.budget (.name "lambda" :: rest) = 8 * rest.length + 15 + 1 := by
    simp only [Parser.budget, List.length_cons]
    omega
  rw [Expr.ofTokens, hb, Parser.expr] at h
  cases hparams : Parser.params rest with
  | error f =>
    rw [hparams] at h
    cases h
  | ok r =>
    obtain ⟨ps, after⟩ := r
    cases hbody : Parser.expr (8 * rest.length + 15) after with
    | error f =>
      simp only [hparams, hbody, bind, Except.bind] at h
      cases h
    | ok r =>
      obtain ⟨body, left⟩ := r
      simp only [hparams, hbody, bind, Except.bind] at h
      cases left with
      | nil =>
        cases h
        exact ⟨ps, body, rfl⟩
      | cons t left => cases h

end Script

/-! ### Definitions -/

namespace Script

theorem exists_head_of_isName {s : String} (h : isName s = true) :
    ∃ c rest, s.toList = c :: rest ∧ Category.isBlank c = false ∧
      ∀ d ∈ s.toList, Scan.isNamePart d = true := by
  have hs := (Bool.and_eq_true_iff.mp h).2
  split at hs
  · cases hs
  · next c rest hc =>
    simp only [Bool.and_eq_true, Bool.not_eq_true'] at hs
    obtain ⟨⟨⟨hblank, -⟩, hstart⟩, hrest⟩ := hs
    refine ⟨c, rest, hc, hblank, fun d hd => ?_⟩
    rw [hc] at hd
    rcases List.mem_cons.mp hd with rfl | hd
    · rw [Scan.isNameStart, Bool.or_eq_true] at hstart
      rw [Scan.isNamePart, Category.isAlphanumeric, Bool.or_eq_true, Bool.or_eq_true]
      exact hstart.imp_left .inl
    · exact List.all_eq_true.mp hrest d hd

end Script

namespace Ident

/-- A name drawn for a lambda written as source text is read as a name. -/
theorem isName_next {s : IdentSource} (h : s.stem = sourceStem) :
    Script.isName s.next.1.text = true := by
  have htext : s.next.1.text = sourceStem ++ toString s.issued.toNat := by rw [IdentSource.next, h]
  have hlist : s.next.1.text.toList =
      'l' :: ("mbstr".toList ++ Nat.toDigits 10 s.issued.toNat) := by
    rw [htext, String.toList_append, Nat.toString_eq_repr, Nat.toList_repr]
    rfl
  have hreserved : Script.Parser.isReserved s.next.1.text = false := by
    have hne (word : String) (hword : ∀ rest, word.toList ≠ 'l' :: 'm' :: rest) :
        (s.next.1.text == word) = false := by
      refine beq_eq_false_iff_ne.mpr fun heq => ?_
      exact hword _ (by rw [← heq, hlist]; rfl)
    rw [Script.Parser.isReserved, hne "lambda" (by simp), hne "raise" (by simp)]
    rfl
  have hdigits : ∀ c ∈ Nat.toDigits 10 s.issued.toNat, Script.Scan.isNamePart c = true := by
    intro c hc
    have hdigit : c.isDigit = true := Nat.isDigit_of_mem_toDigits (by decide) (by decide) hc
    have hlt : c.toNat < 128 := by
      have hle : c.toNat ≤ '9'.toNat := (Char.isDigit_iff_toNat.mp hdigit).2
      exact Nat.lt_of_le_of_lt hle (by decide)
    simp [Script.Scan.isNamePart, Category.isAlphanumeric, Category.isNumeric, hlt, hdigit]
  have hall : ("mbstr".toList ++ Nat.toDigits 10 s.issued.toNat).all Script.Scan.isNamePart =
      true := by
    rw [List.all_append, List.all_eq_true.mpr hdigits]
    decide
  rw [Script.isName, hreserved, hlist]
  simp only [hall]
  decide

end Ident

namespace SourceLambda

open Script (Expr Statement Token)

/-- The expression that a text stands for: the keyword, and the text without its margins. -/
def expression (source : String) : List Char :=
  keyword.toList ++ ' ' :: Margin.trim source.toList

variable {name : Ident} {source : String}

theorem toList_definition (name : Ident) (source : String) :
    (definition name source).toList =
      name.text.toList ++ ' ' :: '=' :: ' ' :: expression source := by
  simp [definition, expression, Margin.trimString]

theorem getLast?_append_trim (before : List Char) (hne : Margin.trim source.toList ≠ []) :
    (before ++ Margin.trim source.toList).getLast? = (Margin.trim source.toList).getLast? := by
  rw [List.getLast?_append]
  cases hlast : (Margin.trim source.toList).getLast? with
  | none => exact absurd (List.getLast?_eq_none_iff.mp hlast) hne
  | some c => rfl

/-- The tokens of a definition are a name, an equals sign and those of the expression. -/
theorem scan_definition (hname : Script.isName name.text = true) (source : String) :
    Token.scan (definition name source).toList =
      (Token.scan (expression source)).map fun ts =>
        .name name.text :: .symbol .assign :: ts := by
  rw [Token.scan, toList_definition, Script.Scan.tokens_of_isName hname (by decide),
    Script.Scan.tokens_blank rfl, Script.Scan.tokens_assign (by decide),
    Script.Scan.tokens_blank rfl, Token.scan]
  cases Script.Scan.tokens .ready (expression source) <;> rfl

theorem newline_not_mem_definition (hname : Script.isName name.text = true)
    (hline : '\n' ∉ Margin.trim source.toList) : '\n' ∉ (definition name source).toList := by
  obtain ⟨c, rest, -, -, hparts⟩ := Script.exists_head_of_isName hname
  have hname' : '\n' ∉ name.text.toList := fun h => absurd (hparts _ h) (by decide)
  have hkeyword : '\n' ∉ keyword.toList := by decide
  rw [toList_definition, expression]
  simp [hname', hkeyword, hline]

/-- A definition is not the source that captures output, which has more than one line. -/
theorem definition_ne_source (hname : Script.isName name.text = true)
    (hline : '\n' ∉ Margin.trim source.toList) :
    (definition name source == Capture.source) = false := by
  refine beq_eq_false_iff_ne.mpr fun heq => newline_not_mem_definition hname hline ?_
  rw [heq, Capture.source, String.intercalate_cons_of_ne_nil (List.cons_ne_nil _ _),
    String.toList_append, String.toList_append]
  exact List.mem_append_left _ (List.mem_append_right _ List.mem_cons_self)

theorem crosses_definition (hname : Script.isName name.text = true)
    (hnul : Image.crosses source = true) : Image.crosses (definition name source) = true := by
  have hname' : Image.crosses name.text = true := by
    simpa [Image.crosses] using Script.nul_not_mem_of_isName hname
  have htrim : Image.crosses (Margin.trimString source) = true := by
    have hnul' : '\x00' ∉ source.toList := by simpa [Image.crosses] using hnul
    have hmem : '\x00' ∉ Margin.trim source.toList := fun h => hnul' (Margin.mem_of_mem_trim h)
    simpa [Image.crosses, Margin.trimString] using hmem
  rw [definition, Image.crosses_append, Image.crosses_append, Image.crosses_append,
    Image.crosses_append, hname', htrim]
  decide +kernel

/-- A text that is accepted has more than margins. -/
theorem trim_ne_nil {l : SourceLambda} (h : check source = .ok l) :
    Margin.trim source.toList ≠ [] := by
  have hcolon : ':' ∈ Margin.trimStart source.toList := by
    unfold check at h
    dsimp only at h
    split at h
    · cases h
    · split at h
      · cases h
      · next hc => simpa using hc
  intro hnil
  rw [Margin.trim, Margin.trimEnd, List.reverse_eq_nil_iff, List.dropWhile_eq_nil_iff] at hnil
  exact absurd (hnil ':' (List.mem_reverse.mpr hcolon)) (by decide)

theorem trim_expression (hne : Margin.trim source.toList ≠ []) :
    Margin.trim (expression source) = expression source := by
  refine Margin.trim_of_edges rfl ?_
  have hlast := getLast?_append_trim (keyword.toList ++ [' ']) hne
  rw [expression, List.append_cons, hlast]
  exact Margin.getLast?_trim source.toList

/-- A definition on one line is one line of a block, without margins. -/
theorem block_eq_ofSingle (hname : Script.isName name.text = true)
    (hline : '\n' ∉ Margin.trim source.toList) (hne : Margin.trim source.toList ≠ []) :
    Statement.block (definition name source).toList =
      if (Margin.trim source.toList).getLast? = some ':' then .error .compound
      else (Statement.ofLine (definition name source).toList).map fun s => [s] := by
  obtain ⟨c, rest, hc, hblank, hparts⟩ := Script.exists_head_of_isName hname
  have htext := toList_definition name source
  have hnewline := newline_not_mem_definition hname hline
  have hhead : (definition name source).toList.head? = some c := by rw [htext, hc]; rfl
  have hlast : (definition name source).toList.getLast? =
      (Margin.trim source.toList).getLast? := by
    rw [htext, expression]
    have h := getLast?_append_trim
      (name.text.toList ++ ' ' :: '=' :: ' ' :: (keyword.toList ++ [' '])) hne
    simpa using h
  have hedge : (definition name source).toList.head?.any Category.isBlank = false := by
    rw [hhead]
    exact hblank
  have htrim : Margin.trim (definition name source).toList = (definition name source).toList :=
    Margin.trim_of_edges hedge (hlast ▸ Margin.getLast?_trim source.toList)
  have hskipped : Statement.isSkipped (definition name source).toList = false := by
    have hc' : c ≠ '#' := by
      rintro rfl
      exact absurd (hparts '#' (by simp [hc])) (by decide)
    rw [Statement.isSkipped, hhead]
    simpa using hc'
  have hsingle : Statement.ofSingle (definition name source).toList =
      if (Margin.trim source.toList).getLast? = some ':' then .error .compound
      else (Statement.ofLine (definition name source).toList).map fun s => [s] := by
    rw [Statement.ofSingle, htrim, hskipped, if_neg Bool.false_ne_true, Statement.ofBlockLine,
      hedge, if_neg Bool.false_ne_true, hlast]
    split <;> rfl
  have hne' : (definition name source).toList ≠ [] := by
    rw [htext, hc]
    exact List.cons_ne_nil _ _
  rw [Statement.block, Lines.ofChars_of_not_mem hnewline hne', Statement.ofLines_cons, hsingle]
  split
  · rfl
  · cases Statement.ofLine (definition name source).toList <;> rfl

/-- **A definition on one line is one assignment, or cannot be read.** It assigns to the name what
the keyword and the text are read as, and cannot be read when these are no expression. -/
theorem block_definition (hname : Script.isName name.text = true)
    (hline : '\n' ∉ Margin.trim source.toList) (hne : Margin.trim source.toList ≠ []) :
    (∀ e, Expr.ofText (expression source) = .ok e →
      (∃ ps body, e = .lambda ps body) ∧
        Statement.block (definition name source).toList = .ok [.assign name.text e]) ∧
    ∀ f, Expr.ofText (expression source) = .error f →
      ∃ f', Statement.block (definition name source).toList = .error f' := by
  have hscan : Token.scan (expression source) =
      (Token.scan (Margin.trim source.toList)).map fun ts => .name keyword :: ts :=
    Script.Scan.tokens_keyword _
  have hopen : ∀ ts, (Margin.trim source.toList).getLast? = some ':' →
      Token.scan (expression source) = .ok ts → Script.EndsOpen ts := by
    intro ts hlast hts
    obtain ⟨before, hbefore⟩ := List.getLast?_eq_some_iff.mp hlast
    rw [expression, hbefore, ← List.cons_append, ← List.append_assoc] at hts
    exact Script.Scan.endsOpen_tokens (s := .ready) trivial hts
  have hline' : Statement.ofLine (definition name source).toList =
      (Expr.ofText (expression source)).map (.assign name.text) := by
    rw [Statement.ofLine, scan_definition hname, Expr.ofText, trim_expression hne]
    cases Token.scan (expression source) with
    | error f => rfl
    | ok ts => simp [Statement.ofTokens, Except.map, bind, Except.bind]
  rw [block_eq_ofSingle hname hline hne, hline']
  constructor
  · intro e he
    rw [he]
    rw [Expr.ofText, trim_expression hne] at he
    cases hts : Token.scan (expression source) with
    | error f =>
      rw [hts] at he
      cases he
    | ok ts =>
      rw [hts] at he
      have hlambda : ∃ ps body, e = .lambda ps body := by
        rw [hscan] at hts
        cases hrest : Token.scan (Margin.trim source.toList) with
        | error f =>
          rw [hrest] at hts
          cases hts
        | ok rest =>
          rw [hrest] at hts
          cases hts
          exact Expr.exists_lambda_of_ofTokens he
      refine ⟨hlambda, ?_⟩
      split
      · next hlast => exact absurd he (Expr.ofTokens_of_endsOpen (hopen ts hlast hts) e)
      · rfl
  · intro f hf
    rw [hf]
    split
    · exact ⟨_, rfl⟩
    · exact ⟨f, rfl⟩

end SourceLambda

end ClosureBridge
