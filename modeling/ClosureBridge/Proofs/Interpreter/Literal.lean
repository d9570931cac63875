import ClosureBridge.Proofs.Interpreter.Datum
import ClosureBridge.Proofs.Interpreter.Naming
import ClosureBridge.Proofs.Interpreter.Parsing

/-!
# Reading what shows a value

The text that shows a value is an expression. Escapes and the machine that cuts a text into tokens
undo each other one character at a time; a number or a name ends where the comma or the bracket of
the list around it stands; and an integer below zero is read as a minus sign before another one.

## Main definitions

* `Script.escape`: a character as it stands in a literal.
* `Script.Datum.tokens`, `Script.Datum.expr`: the tokens of what shows a value, and what they mean.

## Main statements

* `Script.Scan.tokens_literal`: a literal is one token, the text that it was made from.
* `Script.Datum.scan_shown`: the text that shows a value is cut into its tokens.
* `Script.Datum.ofText_shown`: the text that shows a value is read as its expression.
-/

namespace ClosureBridge

/-- Every integer but the least one has a negative. -/
theorem Word.lt_toInt {n : Int64} (hn : n ≠ Int64.minValue) : -Word.bound < n.toInt :=
  Int.lt_iff_le_and_ne.mpr ⟨n.le_toInt, fun h => hn (Int64.toInt_inj.mp h.symm)⟩

/-! ### Escapes -/

/-- Replacing one character replaces it everywhere. -/
theorem Replace.charsFrom_singleton (p : Char) (replacement text : List Char) :
    charsFrom [p] replacement 0 text =
      text.flatMap fun c => if c = p then replacement else [c] := by
  induction text with
  | nil => rfl
  | cons c text ih =>
    rw [charsFrom, List.flatMap_cons, ← ih]
    by_cases h : p = c
    · subst h
      simp [Split.dropPrefix?]
    · simp [Split.dropPrefix?, h, Ne.symm h]

namespace Script

/-- A character as it stands in a literal. -/
def escape (c : Char) : List Char :=
  if c = '\\' then ['\\', '\\'] else if c = '\'' then ['\\', '\''] else [c]

/-- The characters of a literal are escaped one by one. -/
theorem toList_literal (s : String) :
    (Heap.literal s).toList = '\'' :: (s.toList.flatMap escape ++ ['\'']) := by
  have hescape : (fun c => (if c = '\\' then ['\\', '\\'] else [c]).flatMap fun d =>
      if d = '\'' then ['\\', '\''] else [d]) = escape := by
    funext c
    unfold escape
    by_cases hb : c = '\\'
    · simp [hb]
    · simp [hb]
  have hbackslash : "\\".toList = ['\\'] := rfl
  have hquote : "'".toList = ['\''] := rfl
  rw [Heap.literal, Replace.text, Replace.text]
  simp only [String.toList_append, String.toList_ofList, hbackslash, hquote,
    Replace.charsFrom_singleton, List.flatMap_assoc]
  rw [← hescape]
  rfl

namespace Scan

variable {s s' : State} {c : Char} {done : List Token} {rest : List Char}

theorem tokens_cons (h : step s c = .ok (done, s')) :
    tokens s (c :: rest) = (tokens s' rest).map (done ++ ·) := by
  rw [tokens, h]
  change (do
    let ts ← tokens s' rest
    return done ++ ts : Except SyntaxFault _) = _
  cases tokens s' rest <;> rfl

theorem tokens_skip (h : step s c = .ok ([], s')) : tokens s (c :: rest) = tokens s' rest := by
  rw [tokens_cons h]
  cases tokens s' rest <;> rfl

/-- A token that what follows cannot continue ends before it. -/
theorem tokens_of_close (h : close s = .ok done)
    (hrest : ∀ c ∈ rest.head?, step s c = restart s c) :
    tokens s rest = (tokens .ready rest).map (done ++ ·) := by
  cases rest with
  | nil =>
    rw [tokens, tokens, h]
    simp [close, Except.map]
  | cons c rest =>
    have hstep : step s c = (start c).map fun r => (done ++ r.1, r.2) := by
      rw [hrest c rfl, restart, h]
      cases start c <;> rfl
    rw [tokens, tokens, hstep, step]
    cases start c with
    | error e => rfl
    | ok r =>
      change (do
        let ts ← tokens r.2 rest
        return (done ++ r.1) ++ ts : Except SyntaxFault _) =
          Except.map _ (do
            let ts ← tokens r.2 rest
            return r.1 ++ ts)
      cases tokens r.2 rest with
      | error e => rfl
      | ok ts => exact congrArg Except.ok (List.append_assoc ..)

/-- What is inside a literal is read as it was before it was escaped. -/
theorem tokens_escaped (text read : List Char) (rest : List Char) :
    tokens (.text '\'' read) (text.flatMap escape ++ rest) =
      tokens (.text '\'' (text.reverse ++ read)) rest := by
  induction text generalizing read with
  | nil => rfl
  | cons c text ih =>
    rw [List.flatMap_cons, List.append_assoc, List.reverse_cons, List.append_assoc,
      List.singleton_append, ← ih]
    unfold escape
    split
    · next h =>
      subst h
      exact (tokens_skip rfl).trans (tokens_skip rfl)
    · split
      · next h =>
        subst h
        exact (tokens_skip rfl).trans (tokens_skip rfl)
      · next hb hq =>
        exact tokens_skip (by rw [step, if_neg hq, if_neg hb])

/-- A literal is one token, the text that it was made from. -/
theorem tokens_literal (s : String) (rest : List Char) :
    tokens .ready ((Heap.literal s).toList ++ rest) =
      (tokens .ready rest).map (.text s :: ·) := by
  have hopen : step .ready '\'' = .ok ([], .text '\'' []) := rfl
  have hclose : step (.text '\'' s.toList.reverse) '\'' = .ok ([.text s], .ready) := by
    rw [step, if_pos rfl, List.reverse_reverse, String.ofList_toList]
  rw [toList_literal, List.cons_append, tokens_skip hopen, List.append_assoc, tokens_escaped,
    List.append_nil, List.singleton_append, tokens_cons hclose]
  rfl

end Scan

/-- What may stand after a value in a list, or at the end of a text. -/
def Separates (rest : List Char) : Prop :=
  ∀ c ∈ rest.head?, c = ',' ∨ c = ']'

namespace Scan

variable {rest : List Char}

theorem tokens_name_before (hs : isName s = true) (hrest : Separates rest) :
    tokens .ready (s.toList ++ rest) = (tokens .ready rest).map (.name s :: ·) := by
  cases rest with
  | nil =>
    rw [List.append_nil]
    exact scan_of_isName hs
  | cons c rest =>
    refine tokens_of_isName hs ?_
    rcases hrest c rfl with rfl | rfl <;> decide

/-- Digits go on with a number. -/
theorem tokens_digits {digits : List Char} (hdigits : ∀ d ∈ digits, d.isDigit = true)
    (read : List Char) :
    tokens (.number read) (digits ++ rest) = tokens (.number (digits.reverse ++ read)) rest := by
  induction digits generalizing read with
  | nil => rfl
  | cons d digits ih =>
    obtain ⟨hd, hdigits⟩ := List.forall_mem_cons.mp hdigits
    have hstep : step (.number read) d = .ok ([], .number (d :: read)) := by
      rw [step, isNumberPart, hd]
      rfl
    rw [List.cons_append, tokens_skip hstep, ih hdigits, List.reverse_cons, List.append_assoc]
    rfl

theorem value_toDigits (m : Nat) : FloatText.value (Nat.toDigits 10 m) = m := by
  have hvalue := Nat.ofDigitChars_ten_toDigits (n := m)
  rw [Nat.ofDigitChars_eq_foldl] at hvalue
  simpa only [FloatText.value, Nat.mul_comm] using hvalue

/-- The digits of a number that is in range are that number. -/
theorem ofNumber_toDigits {m : Nat} (hm : (m : Int) < Word.bound) :
    Token.ofNumber (Nat.toDigits 10 m) = .ok (.integer (Int64.ofInt m)) := by
  have hpoint : (Nat.toDigits 10 m).contains '.' = false := by
    rw [← Bool.not_eq_true, List.contains_iff_mem]
    intro hmem
    exact absurd (Nat.isDigit_of_mem_toDigits (by decide) (by decide) hmem) (by decide)
  have hlow : -Word.bound ≤ (m : Int) := by
    unfold Word.bound
    omega
  rw [Token.ofNumber, hpoint, if_neg Bool.false_ne_true, value_toDigits, Word.ofInt?,
    if_pos ⟨hlow, hm⟩]

/-- The digits of a number that is in range are one token. -/
theorem tokens_toDigits {m : Nat} (hm : (m : Int) < Word.bound) (hrest : Separates rest) :
    tokens .ready (Nat.toDigits 10 m ++ rest) =
      (tokens .ready rest).map (.integer (Int64.ofInt m) :: ·) := by
  have hdigit : ∀ d ∈ Nat.toDigits 10 m, d.isDigit = true := fun d hd =>
    Nat.isDigit_of_mem_toDigits (by decide) (by decide) hd
  have hclose : close (.number (Nat.toDigits 10 m).reverse) = .ok [.integer (Int64.ofInt m)] := by
    rw [close, List.reverse_reverse, ofNumber_toDigits hm]
    rfl
  have hend (read : List Char) : ∀ c ∈ rest.head?,
      step (.number read) c = restart (.number read) c := by
    intro c hc
    rcases hrest c hc with rfl | rfl <;> rfl
  refine Eq.trans ?_ (tokens_of_close hclose (hend _))
  cases hl : Nat.toDigits 10 m with
  | nil => exact absurd hl Nat.toDigits_ne_nil
  | cons d digits =>
    rw [hl] at hdigit
    obtain ⟨hd, hdigits⟩ := List.forall_mem_cons.mp hdigit
    have hblank := (Ident.isNamePart_of_isTail (Ident.isTail_of_isDigit hd)).2
    have hbegin : step .ready d = .ok ([], .number [d]) := by
      simp [step, start, hblank, hd]
    rw [List.cons_append, tokens_skip hbegin, tokens_digits hdigits, List.reverse_cons]

end Scan

/-! ### The tokens of what shows a value -/

namespace Datum

/-- The tokens of an integer. -/
def integerTokens (n : Int64) : List Token :=
  if n.toInt < 0 then [.symbol .minus, .integer (Int64.ofInt (-n.toInt))] else [.integer n]

/-- What an integer is read as. -/
def integerExpr (n : Int64) : Expr :=
  if n.toInt < 0 then .negate (.integer (Int64.ofInt (-n.toInt))) else .integer n

mutual

/-- The tokens of what shows a value. -/
def tokens : Datum → List Token
  | none => [.name "None"]
  | boolean b => [.name (if b then "True" else "False")]
  | integer n => integerTokens n
  | text s => [.text s]
  | list ds => .symbol .openSquare :: ([Token.symbol .comma].intercalate (tokensAll ds) ++
      [.symbol .closeSquare])

/-- The tokens of what shows values, for each of them. -/
def tokensAll : List Datum → List (List Token)
  | [] => []
  | d :: ds => d.tokens :: tokensAll ds

end

mutual

/-- What the text that shows a value is read as. -/
def expr : Datum → Expr
  | none => .name "None"
  | boolean b => .name (if b then "True" else "False")
  | integer n => integerExpr n
  | text s => .text s
  | list ds => .list (exprAll ds)

/-- What the texts that show values are read as. -/
def exprAll : List Datum → List Expr
  | [] => []
  | d :: ds => d.expr :: exprAll ds

end

/-- The digits of an integer, after a minus sign if it is below zero. -/
theorem toList_integer (n : Int) :
    (toString n).toList =
      if n < 0 then '-' :: Nat.toDigits 10 n.natAbs else Nat.toDigits 10 n.natAbs := by
  cases n with
  | ofNat m =>
    have hsign : ¬ Int.ofNat m < 0 := Int.not_lt.mpr (Int.natCast_nonneg m)
    rw [if_neg hsign]
    exact Nat.toList_repr
  | negSucc m =>
    rw [if_pos (Int.negSucc_lt_zero m)]
    change ("-" ++ Nat.repr (m + 1)).toList = _
    rw [String.toList_append, Nat.toList_repr]
    rfl

theorem scan_integer {n : Int64} (hn : n ≠ Int64.minValue) {rest : List Char}
    (hrest : Separates rest) :
    Scan.tokens .ready ((toString n.toInt).toList ++ rest) =
      (Scan.tokens .ready rest).map (integerTokens n ++ ·) := by
  have hhigh := n.toInt_lt
  have hlow := Word.lt_toInt hn
  have hbound : (n.toInt.natAbs : Int) < Word.bound := by
    unfold Word.bound at *
    omega
  rw [toList_integer, integerTokens]
  split
  · next hneg =>
    have hminus : Scan.step .ready '-' = .ok ([.symbol .minus], .ready) := rfl
    have habs : (n.toInt.natAbs : Int) = -n.toInt := by omega
    rw [List.cons_append, Scan.tokens_cons hminus, Scan.tokens_toDigits hbound hrest, habs]
    cases Scan.tokens .ready rest <;> rfl
  · next hneg =>
    have habs : (n.toInt.natAbs : Int) = n.toInt := Int.natAbs_of_nonneg (Int.not_lt.mp hneg)
    rw [Scan.tokens_toDigits hbound hrest, habs, Int64.ofInt_toInt]
    rfl

/-- The text that shows a list, between its brackets. -/
theorem toList_shown_list (ds : List Datum) :
    (list ds).shown.toList =
      '[' :: ([',', ' '].intercalate ((shownAll ds).map String.toList) ++ [']']) := by
  rw [shown, Heap.showList, String.toList_append, String.toList_append, String.toList_intercalate]
  rfl

mutual

/-- The text that shows a value is cut into the tokens of the value. -/
theorem scan_shown : (d : Datum) → Int64.minValue ∉ d.integers → ∀ {rest : List Char},
    Separates rest → Scan.tokens .ready (d.shown.toList ++ rest) =
      (Scan.tokens .ready rest).map (d.tokens ++ ·)
  | none, _, _, hrest => Scan.tokens_name_before (by decide) hrest
  | boolean true, _, _, hrest => Scan.tokens_name_before (by decide) hrest
  | boolean false, _, _, hrest => Scan.tokens_name_before (by decide) hrest
  | integer n, hn, _, hrest => scan_integer (by simpa [integers, eq_comm] using hn) hrest
  | text s, _, _, _ => Scan.tokens_literal s _
  | list ds, hn, rest, hrest => by
    have hopen : Scan.step .ready '[' = .ok ([.symbol .openSquare], .ready) := rfl
    have hclose : Scan.step .ready ']' = .ok ([.symbol .closeSquare], .ready) := rfl
    rw [toList_shown_list, List.cons_append, List.append_assoc, List.singleton_append,
      Scan.tokens_cons hopen, scan_shownAll ds hn, Scan.tokens_cons hclose, tokens]
    cases Scan.tokens .ready rest with
    | error e => rfl
    | ok ts => simp [Except.map]

/-- The same for values with commas between them, before a closing bracket. -/
theorem scan_shownAll : (ds : List Datum) → Int64.minValue ∉ integersAll ds →
    ∀ {rest : List Char},
    Scan.tokens .ready ([',', ' '].intercalate ((shownAll ds).map String.toList) ++ ']' :: rest) =
      (Scan.tokens .ready (']' :: rest)).map
        ([Token.symbol .comma].intercalate (tokensAll ds) ++ ·)
  | [], _, rest => by
    simp [shownAll, tokensAll]
    cases Scan.tokens .ready (']' :: rest) <;> rfl
  | [d], hn, rest => by
    have hrest : Separates (']' :: rest) := fun c hc => .inr (Option.some_inj.mp hc).symm
    have hd : Int64.minValue ∉ d.integers := by simpa [integersAll] using hn
    rw [shownAll, shownAll, tokensAll, tokensAll, List.map_singleton, List.intercalate_singleton,
      List.intercalate_singleton]
    exact scan_shown d hd hrest
  | d :: d' :: ds, hn, rest => by
    have hcomma : Scan.step .ready ',' = .ok ([.symbol .comma], .ready) := rfl
    have hblank : Scan.step .ready ' ' = .ok ([], .ready) := rfl
    rw [integersAll, List.mem_append, not_or] at hn
    obtain ⟨hd, hds⟩ := hn
    have hrest : ∀ more, Separates (',' :: more) := fun more c hc =>
      .inl (Option.some_inj.mp hc).symm
    have hchars :
        [',', ' '].intercalate ((shownAll (d :: d' :: ds)).map String.toList) ++ ']' :: rest =
          d.shown.toList ++ (',' :: ' ' ::
            ([',', ' '].intercalate ((shownAll (d' :: ds)).map String.toList) ++ ']' :: rest)) := by
      simp only [shownAll, List.map_cons, List.intercalate_cons_cons, List.append_assoc]
      rfl
    rw [hchars, scan_shown d hd (hrest _), Scan.tokens_cons hcomma, Scan.tokens_skip hblank,
      scan_shownAll (d' :: ds) hds]
    cases Scan.tokens .ready (']' :: rest) with
    | error e => rfl
    | ok ts => simp [Except.map, tokensAll, List.intercalate_cons_cons]

end

/-! ### The expression that shows a value -/

theorem derives_integerExpr (n : Int64) : Derives .unary (integerTokens n) (integerExpr n) := by
  unfold integerTokens integerExpr
  split
  · exact .negate (.calls (.atom (.integer _)))
  · exact .calls (.atom (.integer n))

mutual

/-- The tokens of what shows a value are a phrase. -/
theorem derives_expr : (d : Datum) → Derives .unary d.tokens d.expr
  | none => .calls (.atom (.name rfl))
  | boolean true => .calls (.atom (.name rfl))
  | boolean false => .calls (.atom (.name rfl))
  | integer n => derives_integerExpr n
  | text s => .calls (.atom (.text s))
  | list [] => .calls (.atom (.list .noItems))
  | list (d :: ds) =>
    .calls (.atom (.list (.items (derives_exprAll (d :: ds) (List.cons_ne_nil d ds)))))

/-- The tokens of what shows values are a phrase, with commas between them. -/
theorem derives_exprAll : (ds : List Datum) → ds ≠ [] →
    Derives .someItems ([Token.symbol .comma].intercalate (tokensAll ds)) (exprAll ds)
  | [], hne => absurd rfl hne
  | [d], _ => by
    rw [tokensAll, tokensAll, List.intercalate_singleton]
    exact .oneItem (.sum (.term (.unary (derives_expr d))))
  | d :: d' :: ds, _ => by
    rw [tokensAll, tokensAll, List.intercalate_cons_cons, List.append_assoc, ← tokensAll]
    exact .moreItems (.sum (.term (.unary (derives_expr d))))
      (derives_exprAll (d' :: ds) (List.cons_ne_nil d' ds))

end

/-- A text that shows a value has no margins. -/
theorem trim_shown (d : Datum) : Margin.trim d.shown.toList = d.shown.toList := by
  cases d with
  | none => decide
  | boolean b => cases b <;> decide
  | integer n =>
    have hdigit : ∀ c ∈ Nat.toDigits 10 n.toInt.natAbs, Category.isBlank c = false := fun c hc =>
      (Ident.isNamePart_of_isTail (Ident.isTail_of_isDigit
        (Nat.isDigit_of_mem_toDigits (by decide) (by decide) hc))).2
    rw [shown, toList_integer]
    refine Margin.trim_of_forall ?_
    split
    · exact List.forall_mem_cons.mpr ⟨by decide, hdigit⟩
    · exact hdigit
  | text s =>
    rw [shown, toList_literal]
    exact Margin.trim_enclosed (by decide) (by decide) _
  | list ds =>
    rw [toList_shown_list]
    exact Margin.trim_enclosed (by decide) (by decide) _

/-- The text that shows a value is read as the expression of the value. -/
theorem ofText_shown {d : Datum} (hd : Int64.minValue ∉ d.integers) :
    Expr.ofText d.shown.toList = .ok d.expr := by
  have hrest : Separates [] := nofun
  have hscan := scan_shown d hd hrest
  rw [List.append_nil] at hscan
  rw [Expr.ofText, trim_shown, Token.scan, hscan]
  change Expr.ofTokens (d.tokens ++ []) = _
  rw [List.append_nil]
  exact Expr.ofTokens_of_derives (.sum (.term (.unary (derives_expr d))))

end Datum

end Script

end ClosureBridge
