import ClosureBridge.FileTree
import ClosureBridge.Proofs.Text.Utf8

/-!
# What was written is read

A file is written at the place that its path leads to. Only directories lie on the way there, and
writing the file leaves them as they are, so the path leads there afterwards too.

## Main statements

* `FileTree.at?_put_of_directory`: what is put at one place leaves the directories at others.
* `FileTree.exists_of_target`: the way to the place of a file that is opened for writing.
* `FileTree.read_of_write`: the file is read as the text that was written.
-/

namespace ClosureBridge.FileTree

variable {tree written : FileTree} {place p q : Place} {entry : FileEntry} {current : Place}
  {path text : String}

theorem at?_put_of_directory (h : tree.at? p = some .directory) (hp : place ≠ p) :
    (tree.put place entry).at? p = some .directory := by
  rw [at?] at h
  rw [at?, put, List.find?_cons_of_neg (by simpa using hp)]
  cases hfind : tree.entries.find? (·.1 == p) with
  | some e =>
    rw [hfind] at h
    exact h
  | none =>
    rw [hfind] at h
    dsimp only at h ⊢
    split at h
    · next hbelow =>
      rw [if_pos]
      rw [Bool.or_eq_true] at hbelow ⊢
      refine hbelow.imp_right fun hany => ?_
      rw [List.any_cons, hany, Bool.or_true]
    · cases h

/-- A directory is entered by a name. -/
theorem at?_of_enter {name : List Char} (h : tree.enter p name = .ok q) :
    tree.at? p = some .directory := by
  unfold enter at h
  cases hp : tree.at? p with
  | none =>
    rw [hp] at h
    cases h
  | some e =>
    cases e with
    | file octets =>
      rw [hp] at h
      cases h
    | directory => rfl

/-- A file that is no directory on the way leaves the way as it is. -/
theorem enter_put {name : List Char} (h : tree.enter p name = .ok q)
    (hplace : tree.at? place ≠ some .directory) : (tree.put place entry).enter p name = .ok q := by
  have hp := at?_of_enter h
  have hne : place ≠ p := by
    rintro rfl
    exact hplace hp
  unfold enter at h ⊢
  rw [at?_put_of_directory hp hne]
  rwa [hp] at h

theorem foldlM_enter_put {names : List (List Char)} (h : names.foldlM tree.enter p = .ok q)
    (hplace : tree.at? place ≠ some .directory) :
    names.foldlM (tree.put place entry).enter p = .ok q := by
  induction names generalizing p with
  | nil => exact h
  | cons name names ih =>
    rw [List.foldlM_cons] at h ⊢
    cases hstep : tree.enter p name with
    | error e =>
      rw [hstep] at h
      cases h
    | ok r =>
      rw [hstep] at h
      rw [enter_put hstep hplace]
      exact ih h

/-- What a computation that ends well has computed on the way. -/
theorem exists_of_bind_eq_ok {ε α β : Type} {x : Except ε α} {f : α → Except ε β} {b : β}
    (h : x >>= f = .ok b) : ∃ a, x = .ok a ∧ f a = .ok b := by
  cases x with
  | error e => cases h
  | ok a => exact ⟨a, rfl, h⟩

theorem bind_of_eq_ok {ε α β : Type} {x : Except ε α} {f : α → Except ε β} {a : α}
    (h : x = .ok a) : x >>= f = f a := by
  rw [h]
  rfl

/-- The way to the place of a file that is opened for writing. -/
theorem exists_of_target (h : tree.target current path = .ok place) :
    ∃ names, pieces path = .ok names ∧
      names.foldlM tree.enter (start current path) = .ok place ∧
      tree.at? place ≠ some .directory := by
  unfold target at h
  obtain ⟨names, hpieces, h⟩ := exists_of_bind_eq_ok h
  refine ⟨names, hpieces, ?_⟩
  cases hdrop : names.reverse.dropWhile List.isEmpty with
  | nil =>
    rw [hdrop] at h
    cases h
  | cons last before =>
    rw [hdrop] at h
    obtain ⟨parent, hparent, h⟩ := exists_of_bind_eq_ok h
    obtain ⟨there, henter, h⟩ := exists_of_bind_eq_ok h
    split at h
    · cases h
    · next hlast =>
      split at h
      · cases h
      · next hdirectory =>
        cases h
        -- no piece is dropped, since the path does not end with a slash
        have hnames : names = before.reverse ++ [last] := by
          have hreverse : names.reverse = last :: before := by
            rw [List.getLast?_eq_head?_reverse] at hlast
            cases hr : names.reverse with
            | nil =>
              rw [hr] at hdrop
              cases hdrop
            | cons name more =>
              rw [hr, List.head?_cons, Option.some.injEq] at hlast
              rwa [hr, List.dropWhile_cons_of_neg (by simpa using hlast)] at hdrop
          rw [← List.reverse_reverse names, hreverse, List.reverse_cons]
        refine ⟨?_, hdirectory⟩
        rw [hnames, List.foldlM_append, bind_of_eq_ok hparent, List.foldlM_cons,
          bind_of_eq_ok henter]
        rfl

/-- **What was written is read.** -/
theorem read_of_write (h : tree.write current path text = .ok written) :
    written.read current path = .ok text := by
  unfold write at h
  obtain ⟨place, htarget, h⟩ := exists_of_bind_eq_ok h
  cases h
  obtain ⟨names, hpieces, hway, hplace⟩ := exists_of_target htarget
  have hplace' : (tree.put place (.file text.toUTF8.toList)).place current path = .ok place := by
    unfold FileTree.place
    rw [hpieces]
    exact foldlM_enter_put hway hplace
  have hoctets : (tree.put place (.file text.toUTF8.toList)).octets current path =
      .ok text.toUTF8.toList := by
    rw [octets, bind_of_eq_ok hplace', at?_put_self]
  rw [read, bind_of_eq_ok hoctets, Utf8.decode?_toUTF8]

end ClosureBridge.FileTree
