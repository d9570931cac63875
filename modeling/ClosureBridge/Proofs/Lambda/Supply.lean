import ClosureBridge.Proofs.Lambda.Freshness
import Mathlib.Logic.Function.Basic

/-!
# Identifiers drawn from both sources

Identifiers of exposed closures and those of lambdas written as source text are drawn from two
sources, in any order. The stem of one source begins with the stem of the other, but goes on with a
letter where the other goes on with a digit; so an identifier tells its source and its number, and
none is drawn twice before a counter has started again.

## Main definitions

* `Supply`: a source of identifiers.
* `Supply.ident`: the identifier with a number.
* `Supply.drawn`: what is drawn from the sources in some order.

## Main statements

* `Supply.ident_inj`: an identifier tells its source and its number.
* `Supply.mem_drawn`: the numbers of the identifiers that are drawn.
* `World.draws_distinct`: identifiers that are drawn differ.
-/

namespace ClosureBridge

/-- A source that the library draws identifiers from. -/
inductive Supply where
  /-- That of exposed closures. -/
  | lambdas
  /-- That of lambdas written as source text. -/
  | sources
  deriving DecidableEq

namespace Supply

variable {ι : Type} {s s' : Supply} {n n' : UInt64}

/-- What every identifier of a source starts with. -/
def stem : Supply → String
  | lambdas => Ident.lambdaStem
  | sources => Ident.sourceStem

/-- A source in a state of the library. -/
def source (w : World ι) : Supply → IdentSource
  | lambdas => w.lambdaIds
  | sources => w.sourceIds

/-- Draw an identifier from a source. -/
def draw : Supply → Exec (World ι) Ident
  | lambdas => World.drawLambdaId
  | sources => World.drawSourceId

/-- The identifier of a source with a number. -/
def ident (s : Supply) (n : UInt64) : Ident :=
  ⟨s.stem ++ toString n.toNat⟩

/-! ### What an identifier tells -/

/-- The longer stem goes on with a letter where a number stands after the shorter one. -/
theorem ident_lambdas_ne_sources (n n' : UInt64) : lambdas.ident n ≠ sources.ident n' := by
  intro h
  have hdigits : Nat.toDigits 10 n.toNat = "str".toList ++ Nat.toDigits 10 n'.toNat := by
    simpa [ident, stem, Ident.lambdaStem, Ident.sourceStem, Nat.toList_repr] using
      congrArg (fun id => id.text.toList) h
  have hletter : 's' ∈ Nat.toDigits 10 n.toNat := by simp [hdigits]
  exact absurd (Nat.isDigit_of_mem_toDigits (by decide) (by decide) hletter) (by decide)

/-- An identifier tells its source and its number. -/
theorem ident_inj (h : s.ident n = s'.ident n') : s = s' ∧ n = n' := by
  have hsource : s = s' := by
    cases s <;> cases s'
    · rfl
    · exact absurd h (ident_lambdas_ne_sources n n')
    · exact absurd h.symm (ident_lambdas_ne_sources n' n)
    · rfl
  subst hsource
  have hnumber : n.toNat = n'.toNat := IdentSource.number_injective (congrArg Ident.text h)
  exact ⟨rfl, UInt64.toNat_inj.mp hnumber⟩

/-! ### What is drawn -/

/-- The identifiers drawn from the sources in some order, given the numbers that come next. -/
def drawn (next : Supply → UInt64) : List Supply → List Ident
  | [] => []
  | s :: rest => s.ident (next s) :: drawn (Function.update next s (next s + 1)) rest

@[simp] theorem length_drawn (next : Supply → UInt64) (order : List Supply) :
    (drawn next order).length = order.length := by
  induction order generalizing next with
  | nil => rfl
  | cons s rest ih => simp [drawn, ih]

/-- The number of an identifier that is drawn is the next one or one of those that follow it, fewer
of them than identifiers are drawn from the source. -/
theorem mem_drawn {next : Supply → UInt64} {order : List Supply} {id : Ident}
    (h : id ∈ drawn next order) :
    ∃ s, ∃ k < order.count s, id = s.ident (next s + UInt64.ofNat k) := by
  induction order generalizing next with
  | nil => cases h
  | cons s rest ih =>
    rcases List.mem_cons.mp h with rfl | h
    · exact ⟨s, 0, by simp, by simp⟩
    · obtain ⟨s', k, hk, rfl⟩ := ih h
      by_cases hs : s' = s
      · subst hs
        refine ⟨s', k + 1, by simpa using hk, ?_⟩
        rw [Function.update_self, UInt64.ofNat_add, UInt64.add_assoc, UInt64.add_comm 1]
        rfl
      · exact ⟨s', k, by simpa [Ne.symm hs] using hk, by rw [Function.update_of_ne hs]⟩

/-- Identifiers differ as long as no counter has started again. -/
theorem nodup_drawn {next : Supply → UInt64} {order : List Supply}
    (h : ∀ s, order.count s ≤ 2 ^ 64) : (drawn next order).Nodup := by
  induction order generalizing next with
  | nil => exact List.nodup_nil
  | cons s rest ih =>
    rw [drawn, List.nodup_cons]
    refine ⟨fun hmem => ?_, ih fun s' => Nat.le_trans List.count_le_count_cons (h s')⟩
    obtain ⟨s', k, hk, hid⟩ := mem_drawn hmem
    obtain ⟨rfl, hnumber⟩ := ident_inj hid
    have hcount := h s
    rw [List.count_cons_self] at hcount
    rw [Function.update_self] at hnumber
    have hnat := congrArg UInt64.toNat hnumber
    simp only [UInt64.toNat_add, UInt64.toNat_ofNat', UInt64.toNat_one] at hnat
    have := (next s).toNat_lt
    omega

/-- Drawing from a source gives the identifier with its next number and leaves the other source. -/
theorem run_draw {w : World ι} (h : (s.source w).stem = s.stem) :
    ∃ w', s.draw.run w = (.ok (s.ident (s.source w).issued), w') ∧
      ∀ s' : Supply, (s'.source w').stem = (s'.source w).stem ∧
        (s'.source w').issued =
          Function.update (fun s => (source w s).issued) s ((s.source w).issued + 1) s' := by
  have hnext : (s.source w).next.1 = s.ident (s.source w).issued := by
    rw [IdentSource.next, h, ident]
  rw [← hnext]
  cases s with
  | lambdas =>
    refine ⟨{ w with lambdaIds := w.lambdaIds.next.2 }, rfl, fun s' => ?_⟩
    cases s' <;> exact ⟨rfl, rfl⟩
  | sources =>
    refine ⟨{ w with sourceIds := w.sourceIds.next.2 }, rfl, fun s' => ?_⟩
    cases s' <;> exact ⟨rfl, rfl⟩

/-- Drawing in some order gives what the next numbers say. -/
theorem run_mapM_draw {w : World ι} (h : ∀ s : Supply, (s.source w).stem = s.stem)
    (order : List Supply) :
    ∃ w', (order.mapM draw).run w =
      (.ok (drawn (fun s => (s.source w).issued) order), w') := by
  induction order generalizing w with
  | nil => exact ⟨w, rfl⟩
  | cons s rest ih =>
    obtain ⟨w', hdraw, hleft⟩ := run_draw (h s)
    obtain ⟨w'', hrest⟩ := ih fun s' => (hleft s').1.trans (h s')
    rw [funext fun s' => (hleft s').2] at hrest
    refine ⟨w'', ?_⟩
    rw [List.mapM_cons, Exec.run_bind_of_ok hdraw, Exec.run_bind_of_ok hrest]
    rfl

end Supply

namespace World

variable {ι : Type} {w : World ι}

/-- **Identifiers that are drawn differ**, from one source and from both, in whatever order and from
whatever numbers on they are drawn, as long as no more than all words there are are drawn from
either. -/
theorem draws_distinct (hlambdas : w.lambdaIds.stem = Ident.lambdaStem)
    (hsources : w.sourceIds.stem = Ident.sourceStem) {order : List Supply}
    (hfew : ∀ s, order.count s ≤ 2 ^ 64) :
    ∃ ids w', (order.mapM Supply.draw).run w = (.ok ids, w') ∧ ids.length = order.length ∧
      ids.Nodup := by
  have hstem (s : Supply) : (s.source w).stem = s.stem := by
    cases s with
    | lambdas => exact hlambdas
    | sources => exact hsources
  obtain ⟨w', hrun⟩ := Supply.run_mapM_draw hstem order
  exact ⟨_, w', hrun, Supply.length_drawn _ order, Supply.nodup_drawn hfew⟩

/-- A state in which the counter of exposed closures is at its last word. -/
def nearlySpent : Session :=
  { Trial.fresh with lambdaIds := ⟨Ident.lambdaStem, 18446744073709551615⟩ }

/-- A counter starts again. -/
theorem draws_distinct_spent :
    ∃ w', (([.lambdas, .sources, .lambdas] : List Supply).mapM Supply.draw).run nearlySpent =
        (.ok [⟨"lmb18446744073709551615"⟩, ⟨"lmbstr0"⟩, ⟨"lmb0"⟩], w') ∧
      ([⟨"lmb18446744073709551615"⟩, ⟨"lmbstr0"⟩, ⟨"lmb0"⟩] : List Ident).Nodup := by
  have hfew (s : Supply) :
      ([.lambdas, .sources, .lambdas] : List Supply).count s ≤ 2 ^ 64 := by
    cases s <;> decide
  obtain ⟨ids, w', hrun, -, hnodup⟩ := draws_distinct (w := nearlySpent) rfl rfl hfew
  have hids : ids = [⟨"lmb18446744073709551615"⟩, ⟨"lmbstr0"⟩, ⟨"lmb0"⟩] := by
    injection congrArg Prod.fst hrun with hids
    exact hids.symm
  exact ⟨w', hids ▸ hrun, hids ▸ hnodup⟩

end World

end ClosureBridge
