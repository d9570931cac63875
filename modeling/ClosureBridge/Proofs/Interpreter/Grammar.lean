import ClosureBridge.Script.Parser

/-!
# The grammar of expressions

What an expression is, told without the reader: a grammar whose rules are the productions of the
language, each with the expression that it makes. Sums, products and calls nest to the left, a
comparison has two sides and no more, and no comma stands after the last item. Everything the
readers accept is derived in it.

## Main definitions

* `Script.Nonterminal`: the kinds of phrases, each with what its phrases mean.
* `Script.Derives`: a list of tokens is a phrase of a kind and means something.
* `Script.Parser.Reads`: what a reader passes is a phrase and means what the reader gives.

## Main statements

* `Script.Derives.starts`: what a phrase starts with.
* `Script.Parser.sound`: every reader passes phrases of its own kind.
-/

namespace ClosureBridge.Script

/-- A kind of phrase. -/
inductive Nonterminal where
  | expr
  | sum
  | term
  | unary
  | calls
  | atom
  | items
  | someItems
  deriving DecidableEq

/-- What a phrase of a kind means. -/
@[reducible] def Nonterminal.Meaning : Nonterminal → Type
  | .items | .someItems => List Expr
  | _ => Expr

/-- The tokens of the parameters of a lambda. -/
def parameters (ps : List String) : List Token :=
  (ps.map Token.name).intersperse (.symbol .comma)

/-- Tokens are a phrase of a kind, and mean something. -/
inductive Derives : (l : Nonterminal) → List Token → l.Meaning → Prop where
  | lambda {s : List Token} {e : Expr} (ps : List String) (h : Derives .expr s e) :
      Derives .expr (.name "lambda" :: (parameters ps ++ .symbol .colon :: s)) (.lambda ps e)
  | equal {s t : List Token} {a b : Expr} (h : Derives .sum s a) (h' : Derives .sum t b) :
      Derives .expr (s ++ .symbol .equal :: t) (.equal a b)
  | sum {s : List Token} {e : Expr} (h : Derives .sum s e) : Derives .expr s e
  | add {s t : List Token} {a b : Expr} (h : Derives .sum s a) (h' : Derives .term t b) :
      Derives .sum (s ++ .symbol .plus :: t) (.binary .add a b)
  | term {s : List Token} {e : Expr} (h : Derives .term s e) : Derives .sum s e
  | multiply {s t : List Token} {a b : Expr} (h : Derives .term s a) (h' : Derives .unary t b) :
      Derives .term (s ++ .symbol .times :: t) (.binary .multiply a b)
  | modulo {s t : List Token} {a b : Expr} (h : Derives .term s a) (h' : Derives .unary t b) :
      Derives .term (s ++ .symbol .modulo :: t) (.binary .modulo a b)
  | unary {s : List Token} {e : Expr} (h : Derives .unary s e) : Derives .term s e
  | negate {s : List Token} {e : Expr} (h : Derives .unary s e) :
      Derives .unary (.symbol .minus :: s) (.negate e)
  | calls {s : List Token} {e : Expr} (h : Derives .calls s e) : Derives .unary s e
  | call {s t : List Token} {f : Expr} {args : List Expr} (h : Derives .calls s f)
      (h' : Derives .items t args) :
      Derives .calls (s ++ .symbol .openRound :: (t ++ [.symbol .closeRound])) (.call f args)
  | method {s t : List Token} {e : Expr} {args : List Expr} (m : String) (h : Derives .calls s e)
      (h' : Derives .items t args) :
      Derives .calls
        (s ++ .symbol .dot :: .name m :: .symbol .openRound :: (t ++ [.symbol .closeRound]))
        (.method e m args)
  | atom {s : List Token} {e : Expr} (h : Derives .atom s e) : Derives .calls s e
  | integer (v : Int64) : Derives .atom [.integer v] (.integer v)
  | float (v : Float) : Derives .atom [.float v] (.float v)
  | text (s : String) : Derives .atom [.text s] (.text s)
  | name {x : String} (h : Parser.isReserved x = false) : Derives .atom [.name x] (.name x)
  | group {s : List Token} {e : Expr} (h : Derives .expr s e) :
      Derives .atom (.symbol .openRound :: (s ++ [.symbol .closeRound])) e
  | list {s : List Token} {es : List Expr} (h : Derives .items s es) :
      Derives .atom (.symbol .openSquare :: (s ++ [.symbol .closeSquare])) (.list es)
  | noItems : Derives .items [] []
  | items {s : List Token} {es : List Expr} (h : Derives .someItems s es) : Derives .items s es
  | oneItem {s : List Token} {e : Expr} (h : Derives .expr s e) : Derives .someItems s [e]
  | moreItems {s t : List Token} {e : Expr} {es : List Expr} (h : Derives .expr s e)
      (h' : Derives .someItems t es) :
      Derives .someItems (s ++ .symbol .comma :: t) (e :: es)

/-! ### What a phrase starts with -/

namespace Nonterminal

/-- Whether a phrase of a kind may start with a lambda. -/
def takesLambda : Nonterminal → Bool
  | .expr | .items | .someItems => true
  | _ => false

/-- Whether a phrase of a kind may start with a minus sign. -/
def takesMinus : Nonterminal → Bool
  | .calls | .atom => false
  | _ => true

/-- Whether a phrase of a kind may start with a token. -/
def opens (l : Nonterminal) : Token → Bool
  | .name x => !Parser.isReserved x || l.takesLambda
  | .symbol .minus => l.takesMinus
  | .symbol s => s = .openRound || s = .openSquare
  | _ => true

/-- Whether tokens may be a phrase of a kind, as far as the first of them tells. -/
def mayBe (l : Nonterminal) : List Token → Bool
  | [] => l = .items
  | t :: _ => l.opens t

/-- Whether a phrase of a kind starts in no way that another kind does not allow. -/
def within (l l' : Nonterminal) : Bool :=
  l ≠ .items && (l.takesLambda → l'.takesLambda) && (l.takesMinus → l'.takesMinus)

theorem opens_of_within {l l' : Nonterminal} {t : Token} (hl : l.within l' = true)
    (h : l.opens t = true) : l'.opens t = true := by
  simp only [within, Bool.and_eq_true, decide_eq_true_eq] at hl
  obtain ⟨⟨-, hlambda⟩, hminus⟩ := hl
  unfold opens at h ⊢
  split at h
  · rw [Bool.or_eq_true] at h ⊢
    exact h.imp_right hlambda
  · exact hminus h
  · exact h
  · exact h

/-- What goes on after a phrase starts as the phrase does. -/
theorem mayBe_append {l l' : Nonterminal} {s : List Token} (hl : l.within l' = true)
    (h : l.mayBe s = true) (rest : List Token) : l'.mayBe (s ++ rest) = true := by
  cases s with
  | nil =>
    cases of_decide_eq_true h
    cases hl
  | cons t s => exact opens_of_within hl h

theorem mayBe_of_within {l l' : Nonterminal} {s : List Token} (hl : l.within l' = true)
    (h : l.mayBe s = true) : l'.mayBe s = true := by
  rw [← List.append_nil s]
  exact mayBe_append hl h []

end Nonterminal

namespace Derives

variable {l l' : Nonterminal} {s : List Token} {m : l.Meaning}

/-- A phrase starts with a token that its kind allows; only a list of items may be empty. -/
theorem mayBe (h : Derives l s m) : l.mayBe s = true := by
  induction h with
  | lambda | negate | integer | float | text | group | list | noItems => rfl
  | name h => simp [Nonterminal.mayBe, Nonterminal.opens, h]
  | equal _ _ ih | add _ _ ih | multiply _ _ ih | modulo _ _ ih | moreItems _ _ ih =>
    exact Nonterminal.mayBe_append rfl ih _
  | call _ _ ih | method _ _ _ ih => exact Nonterminal.mayBe_append rfl ih _
  | sum _ ih | term _ ih | unary _ ih | calls _ ih | atom _ ih | items _ ih | oneItem _ ih =>
    exact Nonterminal.mayBe_of_within rfl ih

theorem ne_nil (h : Derives l s m) (hl : l ≠ .items) : s ≠ [] := by
  rintro rfl
  exact hl (of_decide_eq_true h.mayBe)

end Derives

/-! ### What the readers pass -/

namespace Parser

/-- What a reader passes of some tokens has a property with what the reader gives. -/
def Reads {α : Type} (D : List Token → α → Prop) (tokens : List Token)
    (r : Except SyntaxFault (α × List Token)) : Prop :=
  ∀ a rest, r = .ok (a, rest) → ∃ read, tokens = read ++ rest ∧ D read a

namespace Reads

variable {α β : Type} {D : List Token → α → Prop} {E : List Token → β → Prop} {t : Token}
  {tokens : List Token} {e : SyntaxFault} {r : Except SyntaxFault (α × List Token)}

theorem ok {a : α} (h : D [] a) (tokens : List Token) : Reads D tokens (.ok (a, tokens)) := by
  rintro _ _ ⟨⟩
  exact ⟨[], rfl, h⟩

theorem error (tokens : List Token) : Reads D tokens (.error e) :=
  nofun

theorem mono {D' : List Token → α → Prop} (h : Reads D tokens r)
    (hD : ∀ read a, D read a → D' read a) : Reads D' tokens r := by
  intro a rest hr
  obtain ⟨read, htokens, hread⟩ := h a rest hr
  exact ⟨read, htokens, hD read a hread⟩

/-- A token is passed, and then others. -/
theorem cons (h : Reads (fun read => D (t :: read)) tokens r) : Reads D (t :: tokens) r := by
  intro a rest hr
  obtain ⟨read, rfl, hread⟩ := h a rest hr
  exact ⟨t :: read, rfl, hread⟩

/-- A reader passes some tokens, and one that goes on with what it leaves passes others. -/
theorem bind {f : α × List Token → Except SyntaxFault (β × List Token)} (h : Reads D tokens r)
    (hf : ∀ a read, D read a → ∀ rest, Reads (fun more => E (read ++ more)) rest (f (a, rest))) :
    Reads E tokens (r >>= f) := by
  intro b left hb
  cases hr : r with
  | error e =>
    rw [hr] at hb
    cases hb
  | ok p =>
    obtain ⟨a, rest⟩ := p
    obtain ⟨read, rfl, hread⟩ := h a rest hr
    rw [hr] at hb
    obtain ⟨more, rfl, hmore⟩ := hf a read hread rest b left hb
    exact ⟨read ++ more, (List.append_assoc ..).symm, hmore⟩

/-- A symbol is passed, and then others. -/
theorem expect {s : Symbol} {f : List Token → Except SyntaxFault (β × List Token)}
    (hf : ∀ rest, Reads (fun more => E (.symbol s :: more)) rest (f rest)) :
    Reads E tokens (Parser.expect s tokens >>= f) := by
  intro b left hb
  unfold Parser.expect at hb
  split at hb
  · next t rest =>
    by_cases ht : t = s
    · rw [if_pos ht] at hb
      subst ht
      exact Reads.cons (hf rest) b left hb
    · rw [if_neg ht] at hb
      cases hb
  · cases hb

end Reads

/-- A symbol that is expected is passed. -/
theorem reads_of_expect {α : Type} {D : List Token → α → Prop} {s : Symbol} {a : α}
    {tokens rest : List Token} (h : expect s tokens = .ok rest) (hD : D [.symbol s] a) :
    Reads D tokens (.ok (a, rest)) := by
  have hexpect : Reads D tokens (expect s tokens >>= fun rest => .ok (a, rest)) :=
    .expect fun rest => .ok hD rest
  rwa [h] at hexpect

/-- Tokens go on with a phrase of a kind: after one that means the first, the whole means the
second. -/
def GoesOn (l : Nonterminal) (m : l.Meaning) (read : List Token) (m' : l.Meaning) : Prop :=
  ∀ s, Derives l s m → Derives l (s ++ read) m'

theorem GoesOn.nil {l : Nonterminal} (m : l.Meaning) : GoesOn l m [] m := by
  intro s hs
  rwa [List.append_nil]

/-- A phrase of a kind with a closing symbol after it. -/
def Closed (l : Nonterminal) (close : Symbol) (read : List Token) (m : l.Meaning) : Prop :=
  ∃ s, read = s ++ [.symbol close] ∧ Derives l s m

/-- What every reader with a budget passes. -/
structure Sound (n : Nat) : Prop where
  expr : ∀ tokens, Reads (Derives .expr) tokens (Parser.expr n tokens)
  sum : ∀ tokens, Reads (Derives .sum) tokens (Parser.sum n tokens)
  moreSum : ∀ a tokens, Reads (GoesOn .sum a) tokens (Parser.moreSum n a tokens)
  term : ∀ tokens, Reads (Derives .term) tokens (Parser.term n tokens)
  moreTerm : ∀ a tokens, Reads (GoesOn .term a) tokens (Parser.moreTerm n a tokens)
  unary : ∀ tokens, Reads (Derives .unary) tokens (Parser.unary n tokens)
  postfixes : ∀ e tokens, Reads (GoesOn .calls e) tokens (Parser.postfixes n e tokens)
  items : ∀ close tokens, Reads (Closed .items close) tokens (Parser.items n close tokens)
  someItems : ∀ close tokens,
    Reads (Closed .someItems close) tokens (Parser.someItems n close tokens)
  atom : ∀ tokens, Reads (Derives .atom) tokens (Parser.atom n tokens)

/-- The parameters of a lambda are names with commas between them, and a colon follows. -/
theorem reads_moreParams (p : String) (tokens : List Token) :
    Reads (fun read ps => .name p :: read = parameters (p :: ps) ++ [.symbol .colon]) tokens
      (moreParams tokens) := by
  fun_induction moreParams tokens generalizing p with
  | case1 rest =>
    refine .cons (.ok ?_ rest)
    rfl
  | case2 q rest ih =>
    refine .cons (.cons ((ih q).bind fun ps read hread rest => .ok ?_ rest))
    rw [List.append_nil, hread]
    rfl
  | case3 => exact .error _
  | case4 => exact .error _

theorem reads_params (tokens : List Token) :
    Reads (fun read ps => read = parameters ps ++ [.symbol .colon]) tokens (params tokens) := by
  unfold params
  split
  · refine .cons (.ok ?_ _)
    rfl
  · next p rest =>
    refine .cons ((reads_moreParams p rest).bind fun ps read hread rest => .ok ?_ rest)
    rw [List.append_nil, hread]
  · exact .error _

namespace Sound

variable {n : Nat}

theorem zero : Sound 0 where
  expr _ := .error _
  sum _ := .error _
  moreSum _ _ := .error _
  term _ := .error _
  moreTerm _ _ := .error _
  unary _ := .error _
  postfixes _ _ := .error _
  items _ _ := .error _
  someItems _ _ := .error _
  atom _ := .error _

theorem expr_succ (h : Sound n) (tokens : List Token) :
    Reads (Derives .expr) tokens (Parser.expr (n + 1) tokens) := by
  unfold Parser.expr
  split
  · next h0 => cases h0
  · next rest heq =>
    cases heq
    refine .cons ((reads_params rest).bind fun ps read hread rest => ?_)
    refine (h.expr rest).bind fun body s hbody rest => .ok ?_ rest
    rw [hread, List.append_nil, List.append_assoc]
    exact .lambda ps hbody
  · next heq _ =>
    cases heq
    refine (h.sum _).bind fun a s ha rest => ?_
    dsimp only
    split
    · refine .cons ((h.sum _).bind fun b t hb rest => .ok ?_ rest)
      rw [List.append_nil]
      exact .equal ha hb
    · refine .ok ?_ rest
      rw [List.append_nil]
      exact .sum ha

/-- An operator and its right operand are passed, and the rest of the chain. -/
theorem moreSum_succ (h : Sound n) (a : Expr) (tokens : List Token) :
    Reads (GoesOn .sum a) tokens (Parser.moreSum (n + 1) a tokens) := by
  unfold Parser.moreSum
  split
  · exact .error _
  · next heq =>
    cases heq
    refine .cons ((h.term _).bind fun b t hb rest => (h.moreSum _ rest).mono ?_)
    intro read e hread s hs
    simpa using hread _ (.add hs hb)
  · exact .ok (.nil _) _

theorem moreTerm_succ (h : Sound n) (a : Expr) (tokens : List Token) :
    Reads (GoesOn .term a) tokens (Parser.moreTerm (n + 1) a tokens) := by
  unfold Parser.moreTerm
  split
  · exact .error _
  · next heq =>
    cases heq
    refine .cons ((h.unary _).bind fun b t hb rest => (h.moreTerm _ rest).mono ?_)
    intro read e hread s hs
    simpa using hread _ (.multiply hs hb)
  · next heq =>
    cases heq
    refine .cons ((h.unary _).bind fun b t hb rest => (h.moreTerm _ rest).mono ?_)
    intro read e hread s hs
    simpa using hread _ (.modulo hs hb)
  · exact .ok (.nil _) _

theorem unary_succ (h : Sound n) (tokens : List Token) :
    Reads (Derives .unary) tokens (Parser.unary (n + 1) tokens) := by
  unfold Parser.unary
  split
  · exact .error _
  · next heq =>
    cases heq
    refine .cons ((h.unary _).bind fun e s he rest => .ok ?_ rest)
    rw [List.append_nil]
    exact .negate he
  · next heq _ =>
    cases heq
    refine (h.atom _).bind fun e s he rest => (h.postfixes e rest).mono ?_
    intro read e' hread
    exact .calls (hread s (.atom he))

theorem postfixes_succ (h : Sound n) (e : Expr) (tokens : List Token) :
    Reads (GoesOn .calls e) tokens (Parser.postfixes (n + 1) e tokens) := by
  unfold Parser.postfixes
  split
  · exact .error _
  · next heq =>
    cases heq
    refine .cons ((h.items _ _).bind fun args t hargs rest => (h.postfixes _ rest).mono ?_)
    obtain ⟨t, rfl, hargs⟩ := hargs
    intro read e' hread s hs
    simpa using hread _ (.call hs hargs)
  · next m rest heq =>
    cases heq
    refine .cons (.cons (.expect fun rest => ?_))
    refine (h.items _ _).bind fun args t hargs rest => (h.postfixes _ rest).mono ?_
    obtain ⟨t, rfl, hargs⟩ := hargs
    intro read e' hread s hs
    simpa using hread _ (.method m hs hargs)
  · exact .error _
  · exact .ok (.nil _) _

theorem items_succ (h : Sound n) (close : Symbol) (tokens : List Token) :
    Reads (Closed .items close) tokens (Parser.items (n + 1) close tokens) := by
  unfold Parser.items
  split
  · next rest hrest => exact reads_of_expect hrest ⟨[], rfl, .noItems⟩
  · refine (h.someItems close tokens).mono ?_
    rintro _ es ⟨s, rfl, hs⟩
    exact ⟨s, rfl, .items hs⟩

theorem someItems_succ (h : Sound n) (close : Symbol) (tokens : List Token) :
    Reads (Closed .someItems close) tokens (Parser.someItems (n + 1) close tokens) := by
  unfold Parser.someItems
  refine (h.expr tokens).bind fun e s he after => ?_
  dsimp only
  split
  · next rest hrest => exact reads_of_expect hrest ⟨s, rfl, .oneItem he⟩
  · refine .expect fun rest => (h.someItems close rest).bind fun es t hes rest => .ok ?_ rest
    obtain ⟨t, rfl, hes⟩ := hes
    exact ⟨s ++ .symbol .comma :: t, by simp, .moreItems he hes⟩

theorem atom_succ (h : Sound n) (tokens : List Token) :
    Reads (Derives .atom) tokens (Parser.atom (n + 1) tokens) := by
  unfold Parser.atom
  split
  · exact .error _
  · exact .error _
  · exact .cons (.ok (.integer _) _)
  · exact .cons (.ok (.float _) _)
  · exact .cons (.ok (.text _) _)
  · split
    · exact .error _
    · next hx => exact .cons (.ok (.name (by simpa using hx)) _)
  · next heq =>
    cases heq
    refine .cons ((h.expr _).bind fun e s he after => ?_)
    exact .expect fun rest => .ok (.group he) rest
  · next heq =>
    cases heq
    refine .cons ((h.items _ _).bind fun es s hes rest => .ok ?_ rest)
    obtain ⟨s, rfl, hes⟩ := hes
    rw [List.append_nil]
    exact .list hes
  · exact .error _

theorem succ (h : Sound n) : Sound (n + 1) where
  expr := h.expr_succ
  sum tokens := by
    unfold Parser.sum
    refine (h.term tokens).bind fun a s ha rest => (h.moreSum a rest).mono ?_
    intro read e hread
    exact hread s (.term ha)
  moreSum := h.moreSum_succ
  term tokens := by
    unfold Parser.term
    refine (h.unary tokens).bind fun a s ha rest => (h.moreTerm a rest).mono ?_
    intro read e hread
    exact hread s (.unary ha)
  moreTerm := h.moreTerm_succ
  unary := h.unary_succ
  postfixes := h.postfixes_succ
  items := h.items_succ
  someItems := h.someItems_succ
  atom := h.atom_succ

end Sound

/-- Every reader passes phrases of its own kind. -/
theorem sound (n : Nat) : Sound n := by
  induction n with
  | zero => exact .zero
  | succ n ih => exact ih.succ

end Parser

end ClosureBridge.Script
