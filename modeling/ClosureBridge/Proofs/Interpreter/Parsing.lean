import ClosureBridge.Proofs.Interpreter.Grammar
import Mathlib.Order.Filter.AtTopBot.Basic

/-!
# What the readers make of phrases

Each reader uses up a budget that grows with the tokens it is given. With that much it does not
run out, and more changes nothing. Every phrase of the grammar is then read as what it means: a
loop goes through a chain from left to right, as the phrase is built, and stops where it ends.

## Main definitions

* `Script.Parser.Settled`: a budget is enough for a reader.
* `Script.Parser.Ends`: what a reader gives with every large budget.
* `Script.Nonterminal.stops`: a phrase of a kind does not go on with what is left.
* `Script.Parser.ReadsAs`: what the readers make of a phrase before other tokens.

## Main statements

* `Script.Parser.enough`: the budget that each reader needs.
* `Script.Parser.readsAs_of_derives`: what the readers make of the phrases of the grammar.
* `Script.Expr.ofTokens_decides_derives`: the reader of expressions accepts what the grammar
  derives, as what it means.
-/

namespace ClosureBridge.Script

namespace Parser

/-! ### The budget -/

/-- A reader does not run out of a budget, and gives the same with one more. -/
def Settled {α : Type} (read : Nat → Except SyntaxFault α) (n : Nat) : Prop :=
  read n ≠ .error .tooDeep ∧ read (n + 1) = read n

namespace Settled

variable {α β : Type} {n : Nat}

theorem const {r : Except SyntaxFault α} (h : r ≠ .error .tooDeep) : Settled (fun _ => r) n :=
  ⟨h, rfl⟩

theorem bind {f : Nat → Except SyntaxFault α} {g : Nat → α → Except SyntaxFault β}
    (hf : Settled f n) (hg : ∀ a, f n = .ok a → Settled (fun m => g m a) n) :
    Settled (fun m => f m >>= g m) n := by
  unfold Settled
  dsimp only
  rw [hf.2]
  cases hr : f n with
  | error e =>
    refine ⟨fun h => hf.1 ?_, rfl⟩
    cases h
    exact hr
  | ok a => exact hg a hr

/-- A reader that stops at once gives what it gives with any budget. -/
theorem stop {read : Nat → Except SyntaxFault α} {r : Except SyntaxFault α}
    (h : ∀ m, read (m + 1) = r) (hr : r ≠ .error .tooDeep := by nofun) :
    Settled read (n + 1) :=
  ⟨by rwa [h], by rw [h, h]⟩

end Settled

/-! ### The readers by the first token -/

/-- Go on with a comparison. -/
def comparison (n : Nat) (a : Expr) : List Token → Except SyntaxFault (Expr × List Token)
  | .symbol .equal :: rest => do
    let (b, rest) ← Parser.sum n rest
    return (.equal a b, rest)
  | rest => .ok (a, rest)

variable {n : Nat} {tokens : List Token}

/-- What is no lambda is a sum, or two of them that are compared. -/
theorem expr_of_sum (h : ¬ ∃ rest, tokens = .name "lambda" :: rest) :
    expr (n + 1) tokens = Parser.sum n tokens >>= fun r => comparison n r.1 r.2 := by
  rw [expr]
  · rfl
  · exact fun rest hrest => h ⟨rest, hrest⟩

/-- What starts with no minus sign is called as often as it is. -/
theorem unary_of_atom (h : ¬ ∃ rest, tokens = .symbol .minus :: rest) :
    unary (n + 1) tokens = atom n tokens >>= fun r => postfixes n r.1 r.2 := by
  rw [unary]
  exact fun rest hrest => h ⟨rest, hrest⟩

/-- Go on with a list of items. -/
def nextItems (n : Nat) (close : Symbol) (e : Expr) (tokens : List Token) :
    Except SyntaxFault (List Expr × List Token) :=
  match expect close tokens with
  | .ok rest => .ok ([e], rest)
  | .error _ => do
    let rest ← expect .comma tokens
    let (es, rest) ← someItems n close rest
    return (e :: es, rest)

/-- A reader that passes something leaves fewer tokens. -/
theorem Reads.length_lt {α : Type} {D : List Token → α → Prop} {tokens rest : List Token} {a : α}
    {r : Except SyntaxFault (α × List Token)} (h : Reads D tokens r) (hD : ¬ D [] a)
    (hr : r = .ok (a, rest)) : rest.length < tokens.length := by
  obtain ⟨read, rfl, hread⟩ := h a rest hr
  cases read with
  | nil => exact absurd hread hD
  | cons t read =>
    simp only [List.cons_append, List.length_cons, List.length_append]
    omega

theorem not_derives_nil {l : Nonterminal} {m : l.Meaning} (hl : l ≠ .items) : ¬ Derives l [] m :=
  fun h => h.ne_nil hl rfl

theorem not_closed_nil {l : Nonterminal} {close : Symbol} {m : l.Meaning} :
    ¬ Closed l close [] m := by
  rintro ⟨s, hs, -⟩
  simp at hs

theorem expect_ne_tooDeep (s : Symbol) (tokens : List Token) :
    expect s tokens ≠ .error .tooDeep := by
  unfold expect
  split
  · split <;> nofun
  · unfold misplaced
    split <;> nofun

theorem length_lt_of_expect {s : Symbol} {tokens rest : List Token}
    (h : expect s tokens = .ok rest) : rest.length < tokens.length :=
  (reads_of_expect (D := fun read _ => read = [.symbol s]) (a := ()) h rfl).length_lt (by simp) rfl

theorem moreParams_ne_tooDeep (tokens : List Token) : moreParams tokens ≠ .error .tooDeep := by
  fun_induction moreParams tokens with
  | case1 rest => simp
  | case2 p rest ih =>
    cases hr : moreParams rest with
    | ok r => simp
    | error e =>
      rintro ⟨⟩
      exact ih hr
  | case3 => simp
  | case4 tokens =>
    unfold misplaced
    split <;> simp

theorem params_ne_tooDeep (tokens : List Token) : params tokens ≠ .error .tooDeep := by
  unfold params
  split
  · nofun
  · next p rest =>
    cases hr : moreParams rest with
    | ok r => nofun
    | error e =>
      rintro ⟨⟩
      exact moreParams_ne_tooDeep rest hr
  · nofun

/-- A budget that is enough for each reader. Between two tokens that are passed no reader is
entered twice, so eight for each token is more than what the readers take one after the other. -/
structure Enough (n : Nat) : Prop where
  expr : ∀ tokens, 8 * tokens.length + 5 ≤ n → Settled (Parser.expr · tokens) n
  sum : ∀ tokens, 8 * tokens.length + 4 ≤ n → Settled (Parser.sum · tokens) n
  moreSum : ∀ a tokens, 8 * tokens.length + 1 ≤ n → Settled (Parser.moreSum · a tokens) n
  term : ∀ tokens, 8 * tokens.length + 3 ≤ n → Settled (Parser.term · tokens) n
  moreTerm : ∀ a tokens, 8 * tokens.length + 1 ≤ n → Settled (Parser.moreTerm · a tokens) n
  unary : ∀ tokens, 8 * tokens.length + 2 ≤ n → Settled (Parser.unary · tokens) n
  postfixes : ∀ e tokens, 8 * tokens.length + 1 ≤ n → Settled (Parser.postfixes · e tokens) n
  items : ∀ close tokens, 8 * tokens.length + 7 ≤ n → Settled (Parser.items · close tokens) n
  someItems : ∀ close tokens, 8 * tokens.length + 6 ≤ n →
    Settled (Parser.someItems · close tokens) n
  atom : ∀ tokens, 8 * tokens.length + 1 ≤ n → Settled (Parser.atom · tokens) n

namespace Enough

variable {n : Nat}

theorem zero : Enough 0 where
  expr _ h := absurd h (by omega)
  sum _ h := absurd h (by omega)
  moreSum _ _ h := absurd h (by omega)
  term _ h := absurd h (by omega)
  moreTerm _ _ h := absurd h (by omega)
  unary _ h := absurd h (by omega)
  postfixes _ _ h := absurd h (by omega)
  items _ _ h := absurd h (by omega)
  someItems _ _ h := absurd h (by omega)
  atom _ h := absurd h (by omega)

/-- The other side of a comparison, if there is one, is shorter. -/
theorem comparison (h : Enough n) (a : Expr) (tokens : List Token)
    (hn : 8 * tokens.length ≤ n) : Settled (Parser.comparison · a tokens) n := by
  rcases tokens with _ | ⟨t, rest⟩
  · exact .const nofun
  cases t with
  | symbol s =>
    cases s with
    | equal =>
      rw [List.length_cons] at hn
      exact .bind (h.sum rest (by omega)) fun _ _ => .const nofun
    | _ => exact .const nofun
  | _ => exact .const nofun

theorem expr_succ (h : Enough n) (tokens : List Token) (hn : 8 * tokens.length + 5 ≤ n + 1) :
    Settled (Parser.expr · tokens) (n + 1) := by
  by_cases hl : ∃ rest, tokens = .name "lambda" :: rest
  · obtain ⟨rest, rfl⟩ := hl
    change Settled (fun m => params rest >>= fun r => Parser.expr m r.2 >>= fun r' =>
      .ok (Expr.lambda r.1 r'.1, r'.2)) n
    have hparams : Settled (fun _ => params rest) n := .const (params_ne_tooDeep rest)
    refine hparams.bind fun ⟨ps, after⟩ hr => .bind (h.expr after ?_) fun r' _ => .const nofun
    have hlt := (reads_params rest).length_lt (by simp) hr
    rw [List.length_cons] at hn
    omega
  · have hsum (m : Nat) := Parser.expr_of_sum (n := m) hl
    have hsettled : Settled (fun m => Parser.sum m tokens >>= fun r =>
        Parser.comparison m r.1 r.2) n := by
      refine .bind (h.sum tokens (by omega)) fun ⟨a, after⟩ hr => h.comparison a after ?_
      have hlt := ((sound n).sum tokens).length_lt (not_derives_nil nofun) hr
      omega
    exact ⟨by simpa only [hsum] using hsettled.1, by simpa only [hsum] using hsettled.2⟩

theorem sum_succ (h : Enough n) (tokens : List Token) (hn : 8 * tokens.length + 4 ≤ n + 1) :
    Settled (Parser.sum · tokens) (n + 1) := by
  change Settled (fun m => Parser.term m tokens >>= fun r => Parser.moreSum m r.1 r.2) n
  refine .bind (h.term tokens (by omega)) fun ⟨a, after⟩ hr => h.moreSum a after ?_
  have hlt := ((sound n).term tokens).length_lt (not_derives_nil nofun) hr
  omega

theorem moreSum_succ (h : Enough n) (a : Expr) (tokens : List Token)
    (hn : 8 * tokens.length + 1 ≤ n + 1) : Settled (Parser.moreSum · a tokens) (n + 1) := by
  rcases tokens with _ | ⟨t, rest⟩
  · exact .stop fun _ => rfl
  rw [List.length_cons] at hn
  cases t with
  | symbol s =>
    cases s with
    | plus =>
      change Settled (fun m => Parser.term m rest >>= fun r =>
        Parser.moreSum m (.binary .add a r.1) r.2) n
      refine .bind (h.term rest (by omega)) fun ⟨b, after⟩ hr => h.moreSum _ after ?_
      have hlt := ((sound n).term rest).length_lt (not_derives_nil nofun) hr
      omega
    | _ => exact .stop fun _ => rfl
  | _ => exact .stop fun _ => rfl

theorem term_succ (h : Enough n) (tokens : List Token) (hn : 8 * tokens.length + 3 ≤ n + 1) :
    Settled (Parser.term · tokens) (n + 1) := by
  change Settled (fun m => Parser.unary m tokens >>= fun r => Parser.moreTerm m r.1 r.2) n
  refine .bind (h.unary tokens (by omega)) fun ⟨a, after⟩ hr => h.moreTerm a after ?_
  have hlt := ((sound n).unary tokens).length_lt (not_derives_nil nofun) hr
  omega

/-- A factor after an operator is shorter, and so is what follows it. -/
theorem factor (h : Enough n) (f : Expr → Expr) (rest : List Token) (hn : 8 * rest.length + 8 ≤ n) :
    Settled (fun m => Parser.unary m rest >>= fun r => Parser.moreTerm m (f r.1) r.2) n := by
  refine .bind (h.unary rest (by omega)) fun ⟨b, after⟩ hr => h.moreTerm _ after ?_
  have hlt := ((sound n).unary rest).length_lt (not_derives_nil nofun) hr
  omega

theorem moreTerm_succ (h : Enough n) (a : Expr) (tokens : List Token)
    (hn : 8 * tokens.length + 1 ≤ n + 1) : Settled (Parser.moreTerm · a tokens) (n + 1) := by
  rcases tokens with _ | ⟨t, rest⟩
  · exact .stop fun _ => rfl
  rw [List.length_cons] at hn
  cases t with
  | symbol s =>
    cases s with
    | times => exact h.factor (.binary .multiply a) rest (by omega)
    | modulo => exact h.factor (.binary .modulo a) rest (by omega)
    | _ => exact .stop fun _ => rfl
  | _ => exact .stop fun _ => rfl

theorem unary_succ (h : Enough n) (tokens : List Token) (hn : 8 * tokens.length + 2 ≤ n + 1) :
    Settled (Parser.unary · tokens) (n + 1) := by
  by_cases hminus : ∃ rest, tokens = .symbol .minus :: rest
  · obtain ⟨rest, rfl⟩ := hminus
    rw [List.length_cons] at hn
    change Settled (fun m => Parser.unary m rest >>= fun r => .ok (Expr.negate r.1, r.2)) n
    exact .bind (h.unary rest (by omega)) fun _ _ => .const nofun
  · have hatom (m : Nat) := Parser.unary_of_atom (n := m) hminus
    have hsettled : Settled (fun m => Parser.atom m tokens >>= fun r =>
        Parser.postfixes m r.1 r.2) n := by
      refine .bind (h.atom tokens (by omega)) fun ⟨e, after⟩ hr => h.postfixes e after ?_
      have hlt := ((sound n).atom tokens).length_lt (not_derives_nil nofun) hr
      omega
    exact ⟨by simpa only [hatom] using hsettled.1, by simpa only [hatom] using hsettled.2⟩

/-- Arguments are read, and then more calls. -/
theorem arguments (h : Enough n) (f : List Expr → Expr) (rest : List Token)
    (hn : 8 * rest.length + 7 ≤ n) :
    Settled (fun m => Parser.items m .closeRound rest >>= fun r =>
      Parser.postfixes m (f r.1) r.2) n := by
  refine .bind (h.items .closeRound rest hn) fun ⟨args, after⟩ hr => h.postfixes _ after ?_
  have hlt := ((sound n).items .closeRound rest).length_lt not_closed_nil hr
  omega

theorem postfixes_succ (h : Enough n) (e : Expr) (tokens : List Token)
    (hn : 8 * tokens.length + 1 ≤ n + 1) : Settled (Parser.postfixes · e tokens) (n + 1) := by
  rcases tokens with _ | ⟨t, rest⟩
  · exact .stop fun _ => rfl
  rw [List.length_cons] at hn
  cases t with
  | symbol s =>
    cases s with
    | openRound => exact h.arguments (.call e) rest (by omega)
    | dot =>
      rcases rest with _ | ⟨t, rest⟩
      · exact .stop fun _ => rfl
      rw [List.length_cons] at hn
      cases t with
      | name m =>
        change Settled (fun k => Parser.expect .openRound rest >>= fun rest =>
          Parser.items k .closeRound rest >>= fun r =>
            Parser.postfixes k (.method e m r.1) r.2) n
        have hexpect : Settled (fun _ => Parser.expect .openRound rest) n :=
          .const (expect_ne_tooDeep _ rest)
        refine hexpect.bind fun after hr => h.arguments (.method e m) after ?_
        have hlt := length_lt_of_expect hr
        omega
      | _ => exact .stop fun _ => rfl
    | _ => exact .stop fun _ => rfl
  | _ => exact .stop fun _ => rfl

theorem items_succ (h : Enough n) (close : Symbol) (tokens : List Token)
    (hn : 8 * tokens.length + 7 ≤ n + 1) : Settled (Parser.items · close tokens) (n + 1) := by
  cases hr : Parser.expect close tokens with
  | ok rest => exact .stop (r := .ok ([], rest)) fun m => by rw [Parser.items, hr]
  | error e =>
    have hsome (m : Nat) : Parser.items (m + 1) close tokens = Parser.someItems m close tokens := by
      rw [Parser.items, hr]
    have hsettled := h.someItems close tokens (by omega)
    exact ⟨by simpa only [hsome] using hsettled.1, by simpa only [hsome] using hsettled.2⟩

theorem someItems_succ (h : Enough n) (close : Symbol) (tokens : List Token)
    (hn : 8 * tokens.length + 6 ≤ n + 1) : Settled (Parser.someItems · close tokens) (n + 1) := by
  change Settled (fun m => Parser.expr m tokens >>= fun r => Parser.nextItems m close r.1 r.2) n
  refine .bind (h.expr tokens (by omega)) fun ⟨e, after⟩ hr => ?_
  have hlt := ((sound n).expr tokens).length_lt (not_derives_nil nofun) hr
  unfold Parser.nextItems
  dsimp only
  cases Parser.expect close after with
  | ok rest => exact .const nofun
  | error _ =>
    have hexpect : Settled (fun _ => Parser.expect .comma after) n :=
      .const (expect_ne_tooDeep _ after)
    refine hexpect.bind fun rest hr => .bind (h.someItems close rest ?_) fun _ _ => .const nofun
    have hlt' := length_lt_of_expect hr
    omega

theorem atom_succ (h : Enough n) (tokens : List Token) (hn : 8 * tokens.length + 1 ≤ n + 1) :
    Settled (Parser.atom · tokens) (n + 1) := by
  rcases tokens with _ | ⟨t, rest⟩
  · exact .stop fun _ => rfl
  rw [List.length_cons] at hn
  cases t with
  | integer v | float v | text s => exact .stop fun _ => rfl
  | name x =>
    have hname (m : Nat) : Parser.atom (m + 1) (.name x :: rest) =
        if isReserved x then .error .invalid else .ok (.name x, rest) := rfl
    refine .stop hname ?_
    split <;> nofun
  | symbol s =>
    cases s with
    | openRound =>
      change Settled (fun m => Parser.expr m rest >>= fun r =>
        Parser.expect .closeRound r.2 >>= fun rest => .ok (r.1, rest)) n
      refine .bind (h.expr rest (by omega)) fun ⟨e, after⟩ _ => ?_
      have hexpect : Settled (fun _ => Parser.expect .closeRound after) n :=
        .const (expect_ne_tooDeep _ after)
      exact hexpect.bind fun _ _ => .const nofun
    | openSquare =>
      change Settled (fun m => Parser.items m .closeSquare rest >>= fun r =>
        .ok (Expr.list r.1, r.2)) n
      exact .bind (h.items .closeSquare rest (by omega)) fun _ _ => .const nofun
    | _ => exact .stop fun _ => rfl

theorem succ (h : Enough n) : Enough (n + 1) where
  expr := h.expr_succ
  sum := h.sum_succ
  moreSum := h.moreSum_succ
  term := h.term_succ
  moreTerm := h.moreTerm_succ
  unary := h.unary_succ
  postfixes := h.postfixes_succ
  items := h.items_succ
  someItems := h.someItems_succ
  atom := h.atom_succ

end Enough

/-- The budget that each reader needs. -/
theorem enough (n : Nat) : Enough n := by
  induction n with
  | zero => exact .zero
  | succ n ih => exact ih.succ

/-- Beyond its budget the reader of expressions gives the same. -/
theorem expr_of_budget_le (tokens : List Token) {n : Nat} (hn : budget tokens ≤ n) :
    expr n tokens = expr (budget tokens) tokens := by
  induction n, hn using Nat.le_induction with
  | base => rfl
  | succ n hn ih =>
    rw [budget] at hn
    rw [← ih]
    exact ((enough n).expr tokens (by omega)).2

theorem expr_budget_ne_tooDeep (tokens : List Token) :
    expr (budget tokens) tokens ≠ .error .tooDeep :=
  ((enough _).expr tokens (by rw [budget]; omega)).1

end Parser

/-! ### Phrases -/

/-- What a reader gives with every budget that is large enough. -/
def Parser.Ends {α : Type} (read : Nat → Except SyntaxFault α) (r : Except SyntaxFault α) : Prop :=
  ∀ᶠ n in Filter.atTop, read n = r

namespace Parser.Ends

variable {α β : Type} {r : Except SyntaxFault α}

theorem of_succ {read : Nat → Except SyntaxFault α} (h : Ends (fun n => read (n + 1)) r) :
    Ends read r := by
  rw [Ends, ← Filter.map_add_atTop_eq_nat 1]
  exact Filter.eventually_map.mpr h

theorem const (r : Except SyntaxFault α) : Ends (fun _ => r) r :=
  .of_forall fun _ => rfl

theorem bind {f : Nat → Except SyntaxFault β} {g : Nat → β → Except SyntaxFault α} {a : β}
    (hf : Ends f (.ok a)) (hg : Ends (fun n => g n a) r) : Ends (fun n => f n >>= g n) r := by
  filter_upwards [hf, hg] with n hfn hgn
  rw [hfn]
  exact hgn

end Parser.Ends

/-- How loosely a symbol holds together what stands beside it; one that does not is the loosest. -/
def Symbol.looseness : Symbol → Nat
  | .openRound | .dot => 1
  | .times | .modulo => 2
  | .plus => 3
  | .equal => 4
  | _ => 5

namespace Nonterminal

/-- How loosely a phrase of a kind may be held together. -/
def looseness : Nonterminal → Nat
  | .unary | .calls => 1
  | .term => 2
  | .sum => 3
  | .expr => 4
  | _ => 0

/-- A phrase of a kind does not go on with the tokens that are left. -/
def stops (l : Nonterminal) : List Token → Bool
  | .symbol s :: _ => l.looseness < s.looseness
  | _ => true

/-- What no looser phrase goes on with, no tighter one does. -/
theorem stops_of_le {l l' : Nonterminal} {rest : List Token} (h : l'.stops rest = true)
    (hl : l.looseness ≤ l'.looseness) : l.stops rest = true := by
  unfold stops at h ⊢
  split at h
  · exact decide_eq_true (Nat.lt_of_le_of_lt hl (of_decide_eq_true h))
  · rfl

end Nonterminal

namespace Parser

/-- What the readers make of a phrase before other tokens. A chain goes on with them. -/
def ReadsAs : (l : Nonterminal) → List Token → l.Meaning → List Token → Prop
  | .expr, s, e, rest =>
    Nonterminal.stops .expr rest = true → Ends (expr · (s ++ rest)) (.ok (e, rest))
  | .sum, s, e, rest => Nonterminal.stops .term rest = true →
    ∀ r, Ends (moreSum · e rest) r → Ends (Parser.sum · (s ++ rest)) r
  | .term, s, e, rest => Nonterminal.stops .unary rest = true →
    ∀ r, Ends (moreTerm · e rest) r → Ends (term · (s ++ rest)) r
  | .unary, s, e, rest =>
    Nonterminal.stops .unary rest = true → Ends (unary · (s ++ rest)) (.ok (e, rest))
  | .calls, s, e, rest =>
    ∀ r, Ends (postfixes · e rest) r → Ends (unary · (s ++ rest)) r
  | .atom, s, e, rest => Ends (atom · (s ++ rest)) (.ok (e, rest))
  | .items, s, es, rest => ∀ close, close = .closeRound ∨ close = .closeSquare →
    Ends (items · close (s ++ .symbol close :: rest)) (.ok (es, rest))
  | .someItems, s, es, rest => ∀ close, close = .closeRound ∨ close = .closeSquare →
    Ends (someItems · close (s ++ .symbol close :: rest)) (.ok (es, rest))

/-! #### The ends of loops -/

variable {rest : List Token} {e : Expr}

theorem ends_moreSum (h : Nonterminal.stops .sum rest = true) :
    Ends (moreSum · e rest) (.ok (e, rest)) := by
  refine .of_succ ?_
  rcases rest with _ | ⟨t, rest⟩
  · exact .const _
  cases t with
  | symbol s =>
    cases s with
    | plus => cases h
    | _ => exact .const _
  | _ => exact .const _

theorem ends_moreTerm (h : Nonterminal.stops .term rest = true) :
    Ends (moreTerm · e rest) (.ok (e, rest)) := by
  refine .of_succ ?_
  rcases rest with _ | ⟨t, rest⟩
  · exact .const _
  cases t with
  | symbol s =>
    cases s with
    | times | modulo => cases h
    | _ => exact .const _
  | _ => exact .const _

theorem ends_postfixes (h : Nonterminal.stops .unary rest = true) :
    Ends (postfixes · e rest) (.ok (e, rest)) := by
  refine .of_succ ?_
  rcases rest with _ | ⟨t, rest⟩
  · exact .const _
  cases t with
  | symbol s =>
    cases s with
    | openRound | dot => cases h
    | _ => exact .const _
  | _ => exact .const _

theorem ends_comparison (h : Nonterminal.stops .expr rest = true) :
    Ends (comparison · e rest) (.ok (e, rest)) := by
  rcases rest with _ | ⟨t, rest⟩
  · exact .const _
  cases t with
  | symbol s =>
    cases s with
    | equal => cases h
    | _ => exact .const _
  | _ => exact .const _

theorem moreParams_parameters (p : String) (ps : List String) (rest : List Token) :
    ∃ read, parameters (p :: ps) ++ .symbol .colon :: rest = .name p :: read ∧
      moreParams read = .ok (ps, rest) := by
  induction ps generalizing p with
  | nil => exact ⟨_, rfl, rfl⟩
  | cons q ps ih =>
    obtain ⟨read, hread, hps⟩ := ih q
    refine ⟨.symbol .comma :: .name q :: read, ?_, ?_⟩
    · rw [← hread]
      rfl
    · rw [moreParams, hps]
      rfl

theorem params_parameters (ps : List String) (rest : List Token) :
    params (parameters ps ++ .symbol .colon :: rest) = .ok (ps, rest) := by
  cases ps with
  | nil => rfl
  | cons p ps =>
    obtain ⟨read, hread, hps⟩ := moreParams_parameters p ps rest
    rw [hread, params, hps]
    rfl

theorem expect_self (s : Symbol) (rest : List Token) :
    expect s (.symbol s :: rest) = .ok rest :=
  if_pos rfl

/-- A closing symbol stops every phrase. -/
theorem stops_of_closing {l : Nonterminal} {close : Symbol} (rest : List Token)
    (hclose : close = .closeRound ∨ close = .closeSquare) :
    l.stops (.symbol close :: rest) = true := by
  rcases hclose with rfl | rfl <;> cases l <;> rfl

/-- What is below a lambda does not start with its keyword. -/
theorem not_lambda {l : Nonterminal} {s : List Token} {m : l.Meaning} (h : Derives l s m)
    (hl : l.takesLambda = false) (rest : List Token) :
    ¬ ∃ more, s ++ rest = .name "lambda" :: more := by
  rintro ⟨more, hmore⟩
  cases s with
  | nil =>
    refine h.ne_nil ?_ rfl
    rintro rfl
    cases hl
  | cons t s =>
    cases (List.cons.inj hmore).1
    have hopens := h.mayBe
    simp [Nonterminal.mayBe, Nonterminal.opens, hl, isReserved] at hopens

/-- What is below a negation does not start with a minus sign. -/
theorem not_minus {s : List Token} {e : Expr} (h : Derives .atom s e) (rest : List Token) :
    ¬ ∃ more, s ++ rest = .symbol .minus :: more := by
  rintro ⟨more, hmore⟩
  cases s with
  | nil => exact h.ne_nil nofun rfl
  | cons t s =>
    cases (List.cons.inj hmore).1
    cases h.mayBe

/-- No item starts with a closing symbol. -/
theorem expect_close_error {s : List Token} {es : List Expr} {close : Symbol}
    (h : Derives .someItems s es) (hclose : close = .closeRound ∨ close = .closeSquare)
    (rest : List Token) : ∃ f, expect close (s ++ rest) = .error f := by
  have hopens := h.mayBe
  cases s with
  | nil => exact absurd rfl (h.ne_nil nofun)
  | cons t s =>
    cases t with
    | symbol s =>
      refine ⟨.invalid, if_neg ?_⟩
      rintro rfl
      rcases hclose with rfl | rfl <;> cases hopens
    | _ => exact ⟨_, rfl⟩

/-- A sum before what no sum goes on with. -/
theorem ReadsAs.ends_sum {s : List Token} (h : ReadsAs .sum s e rest)
    (hrest : Nonterminal.stops .sum rest = true) :
    Ends (Parser.sum · (s ++ rest)) (.ok (e, rest)) :=
  h (Nonterminal.stops_of_le hrest (by decide)) _ (ends_moreSum hrest)

/-- A term before what no term goes on with. -/
theorem ReadsAs.ends_term {s : List Token} (h : ReadsAs .term s e rest)
    (hrest : Nonterminal.stops .term rest = true) :
    Ends (Parser.term · (s ++ rest)) (.ok (e, rest)) :=
  h (Nonterminal.stops_of_le hrest (by decide)) _ (ends_moreTerm hrest)

/-- The last item is closed. -/
theorem ends_nextItems_close (close : Symbol) (e : Expr) (rest : List Token) :
    Ends (nextItems · close e (.symbol close :: rest)) (.ok ([e], rest)) := by
  simp only [nextItems, expect_self]
  exact .const _

/-- Another item comes after a comma. -/
theorem ends_nextItems_comma {close : Symbol} (hclose : close = .closeRound ∨ close = .closeSquare)
    {tokens : List Token} {es : List Expr}
    (h : Ends (someItems · close tokens) (.ok (es, rest))) :
    Ends (nextItems · close e (.symbol .comma :: tokens)) (.ok (e :: es, rest)) := by
  have hcomma : expect close (.symbol .comma :: tokens) = .error .invalid := by
    rcases hclose with rfl | rfl <;> rfl
  simp only [nextItems, hcomma, expect_self]
  exact h.bind (.const _)

/-- What the readers make of a phrase. -/
theorem readsAs_of_derives {l : Nonterminal} {s : List Token} {m : l.Meaning}
    (h : Derives l s m) : ∀ rest, ReadsAs l s m rest := by
  induction h with
  | @lambda s e ps h ih =>
    intro rest hrest
    have hparams : Ends (fun _ => params (parameters ps ++ .symbol .colon :: (s ++ rest)))
        (.ok (ps, s ++ rest)) := by
      rw [params_parameters]
      exact .const _
    rw [List.cons_append, List.append_assoc]
    refine .of_succ (hparams.bind ?_)
    exact (ih rest hrest).bind (.const _)
  | @equal s t a b h h' ih ih' =>
    intro rest hrest
    have ha : Ends (Parser.sum · (s ++ .symbol .equal :: (t ++ rest)))
        (.ok (a, .symbol .equal :: (t ++ rest))) := (ih _).ends_sum rfl
    have hb : Ends (Parser.sum · (t ++ rest)) (.ok (b, rest)) :=
      (ih' _).ends_sum (Nonterminal.stops_of_le hrest (by decide))
    have hcomparison : Ends (comparison · a (.symbol .equal :: (t ++ rest)))
        (.ok (.equal a b, rest)) := hb.bind (.const _)
    rw [List.append_assoc, List.cons_append]
    refine .of_succ ?_
    simp only [expr_of_sum (not_lambda h rfl _)]
    exact ha.bind hcomparison
  | @sum s e h ih =>
    intro rest hrest
    have he : Ends (Parser.sum · (s ++ rest)) (.ok (e, rest)) :=
      (ih _).ends_sum (Nonterminal.stops_of_le hrest (by decide))
    refine .of_succ ?_
    simp only [expr_of_sum (not_lambda h rfl _)]
    exact he.bind (ends_comparison hrest)
  | @add s t a b h h' ih ih' =>
    intro rest hrest r hr
    rw [List.append_assoc]
    exact ih _ rfl r (.of_succ (((ih' _).ends_term hrest).bind hr))
  | @term s e h ih =>
    intro rest hrest r hr
    exact .of_succ (((ih _).ends_term hrest).bind hr)
  | @multiply s t a b h h' ih ih' | @modulo s t a b h h' ih ih' =>
    intro rest hrest r hr
    rw [List.append_assoc]
    exact ih _ rfl r (.of_succ ((ih' rest hrest).bind hr))
  | @unary s e h ih =>
    intro rest hrest r hr
    exact .of_succ ((ih rest hrest).bind hr)
  | @negate s e h ih =>
    intro rest hrest
    exact .of_succ ((ih rest hrest).bind (.const _))
  | @calls s e h ih =>
    intro rest hrest
    exact ih rest _ (ends_postfixes hrest)
  | @call s t f args h h' ih ih' =>
    intro rest r hr
    rw [List.append_assoc, List.cons_append, List.append_assoc]
    exact ih _ r (.of_succ ((ih' rest .closeRound (.inl rfl)).bind hr))
  | @method s t e args m h h' ih ih' =>
    intro rest r hr
    have hitems := ih' rest .closeRound (.inl rfl)
    rw [List.append_assoc]
    simp only [List.cons_append, List.append_assoc]
    exact ih _ r (.of_succ (hitems.bind hr))
  | @atom s e h ih =>
    intro rest r hr
    refine .of_succ ?_
    simp only [unary_of_atom (not_minus h rest)]
    exact (ih rest).bind hr
  | integer v | float v | text s =>
    intro rest
    exact .of_succ (.const _)
  | @name x hx =>
    intro rest
    refine .of_succ ?_
    simp only [List.cons_append, atom, hx]
    exact .const _
  | @group s e h ih =>
    intro rest
    have he : Ends (expr · (s ++ .symbol .closeRound :: rest))
        (.ok (e, .symbol .closeRound :: rest)) := ih _ rfl
    have hgroup : Ends (atom · (.symbol .openRound :: (s ++ .symbol .closeRound :: rest)))
        (.ok (e, rest)) := .of_succ (he.bind (.const _))
    simpa [ReadsAs] using hgroup
  | @list s es h ih =>
    intro rest
    have hlist : Ends (atom · (.symbol .openSquare :: (s ++ .symbol .closeSquare :: rest)))
        (.ok (.list es, rest)) := .of_succ ((ih rest .closeSquare (.inr rfl)).bind (.const _))
    simpa [ReadsAs] using hlist
  | noItems =>
    intro rest close _
    refine .of_succ ?_
    simp only [List.nil_append, items, expect_self]
    exact .const _
  | @items s es h ih =>
    intro rest close hclose
    obtain ⟨f, hf⟩ := expect_close_error h hclose (.symbol close :: rest)
    refine .of_succ ?_
    simp only [items, hf]
    exact ih rest close hclose
  | @oneItem s e h ih =>
    intro rest close hclose
    have he := ih (.symbol close :: rest) (stops_of_closing rest hclose)
    exact .of_succ (he.bind (ends_nextItems_close close e rest))
  | @moreItems s t e es h h' ih ih' =>
    intro rest close hclose
    have he := ih (.symbol .comma :: (t ++ .symbol close :: rest)) rfl
    have hnext := ends_nextItems_comma (e := e) hclose (ih' rest close hclose)
    have hitems : Ends (fun n => someItems (n + 1) close
        (s ++ .symbol .comma :: (t ++ .symbol close :: rest))) (.ok (e :: es, rest)) :=
      he.bind hnext
    simpa using Ends.of_succ hitems

end Parser

namespace Expr

variable {tokens : List Token} {e : Expr}

theorem derives_of_ofTokens (h : ofTokens tokens = .ok e) : Derives .expr tokens e := by
  unfold ofTokens at h
  cases hr : Parser.expr (Parser.budget tokens) tokens with
  | error f =>
    rw [hr] at h
    cases h
  | ok r =>
    obtain ⟨a, rest⟩ := r
    rw [hr] at h
    cases rest with
    | cons t rest => cases h
    | nil =>
      cases h
      obtain ⟨read, rfl, hread⟩ := (Parser.sound _).expr tokens e [] hr
      rwa [List.append_nil]

theorem ofTokens_of_derives (h : Derives .expr tokens e) : ofTokens tokens = .ok e := by
  have hends : Parser.Ends (Parser.expr · (tokens ++ [])) (.ok (e, [])) :=
    Parser.readsAs_of_derives h [] rfl
  rw [List.append_nil] at hends
  obtain ⟨n, hn, hbudget⟩ := (hends.and (Filter.eventually_ge_atTop (Parser.budget tokens))).exists
  dsimp only at hn
  rw [ofTokens, ← Parser.expr_of_budget_le tokens hbudget, hn]
  rfl

/-- What the tokens of an expression mean is determined by them. -/
theorem eq_of_derives {e' : Expr} (h : Derives .expr tokens e) (h' : Derives .expr tokens e') :
    e = e' :=
  Except.ok.inj ((ofTokens_of_derives h).symm.trans (ofTokens_of_derives h'))

/-- The reader of expressions uses up no more than its budget, whatever it is given. It accepts
just the lists of tokens that the grammar derives, as what they mean, which is one expression. -/
theorem ofTokens_decides_derives (tokens : List Token) :
    (∀ n, Parser.budget tokens ≤ n →
      Parser.expr n tokens = Parser.expr (Parser.budget tokens) tokens ∧
        Parser.expr n tokens ≠ .error .tooDeep) ∧
    (∀ e, ofTokens tokens = .ok e ↔ Derives .expr tokens e) ∧
    ∀ e e', Derives .expr tokens e → Derives .expr tokens e' → e = e' := by
  refine ⟨fun n hn => ?_, fun e => ⟨derives_of_ofTokens, ofTokens_of_derives⟩,
    fun e e' => eq_of_derives⟩
  have heq := Parser.expr_of_budget_le tokens hn
  exact ⟨heq, heq ▸ Parser.expr_budget_ne_tooDeep tokens⟩

end Expr

end ClosureBridge.Script
