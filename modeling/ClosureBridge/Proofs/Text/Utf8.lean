import ClosureBridge.Text.Utf8

/-!
# Texts as octets

The octets of a text are those of its characters, and each of them is read as the character that it
belongs to: the lead octet tells how many follow, and each of these is in the range that the
characters of that length leave to it.

## Main statements

* `Utf8.toList_toUTF8`: the octets of a text, character by character.
* `Utf8.unitsFrom_encode`: the octets of a character are read as that character.
* `Utf8.decode?_toUTF8`: the octets of a text are read as that text.
-/

namespace ClosureBridge.Utf8

/-! ### Writing -/

theorem toList_loop (b : ByteArray) (i : Nat) (r : List UInt8) :
    ByteArray.toList.loop b i r = r.reverse ++ b.data.toList.drop i := by
  fun_induction ByteArray.toList.loop b i r with
  | case1 i r h ih =>
    have hi : i < b.data.toList.length := by simpa using h
    have hget : b.get! i = b.data.toList[i] := by
      simp [ByteArray.get!, getElem!_pos b.data i (by simpa using h)]
    rw [ih, List.drop_eq_getElem_cons hi]
    simp [hget]
  | case2 i r h =>
    have hi : b.data.toList.length ≤ i := by simpa using h
    rw [List.drop_eq_nil_of_le hi, List.append_nil]

/-- The octets of a text are those of its characters. -/
theorem toList_toUTF8 (s : String) : s.toUTF8.toList = s.toList.flatMap String.utf8EncodeChar := by
  rw [ByteArray.toList, toList_loop, List.reverse_nil, List.nil_append, List.drop_zero,
    String.toUTF8, ← String.utf8Encode_toList, List.utf8Encode, List.toList_data_toByteArray]

/-- A zero among octets stands for a NUL. -/
theorem eq_nul_of_zero_mem {c : Char} (h : 0 ∈ String.utf8EncodeChar c) : c = '\x00' := by
  have hzero {n : Nat} (h : 0 = UInt8.ofNat n) : n % 256 = 0 := by
    simpa using (congrArg UInt8.toNat h).symm
  unfold String.utf8EncodeChar at h
  dsimp only at h
  split at h
  · next hc =>
    have hval := hzero (List.mem_singleton.mp h)
    refine Char.ext (UInt32.toNat_inj.mp ?_)
    change c.val.toNat = 0
    omega
  -- the lead octet of a longer sequence is 192 at least, the octets after it 128 at least
  · split at h
    · simp only [List.mem_cons, List.not_mem_nil, or_false] at h
      rcases h with h | h <;> have := hzero h <;> omega
    · split at h <;> simp only [List.mem_cons, List.not_mem_nil, or_false] at h
      · rcases h with h | h | h <;> have := hzero h <;> omega
      · rcases h with h | h | h | h <;> have := hzero h <;> omega

/-! ### Reading -/

variable {v n t value low high : Nat} {rest : List UInt8}

theorem toNat_ofNat_of_lt {b : Nat} (hb : b < 256) : (UInt8.ofNat b).toNat = b := by
  rw [UInt8.toNat_ofNat']
  exact Nat.mod_eq_of_lt hb

/-- A lead octet begins a character. -/
theorem unitsFrom_lead {b : Nat} {p : Pending} (hb : b < 256) (h : lead b = some (.inr p)) :
    unitsFrom none (UInt8.ofNat b :: rest) = unitsFrom (some p) rest := by
  rw [unitsFrom, toNat_ofNat_of_lt hb, step, start, h]
  rfl

/-- An octet in the range that a character allows goes on with it. -/
theorem unitsFrom_more (ht : t < 64) (hlow : low ≤ t + 128) (hhigh : t + 128 ≤ high) :
    unitsFrom (some ⟨value, n + 2, low, high⟩) (UInt8.ofNat (t + 128) :: rest) =
      unitsFrom (some ⟨value * 64 + t, n + 1, 0x80, 0xBF⟩) rest := by
  have hbits : (t + 128) % 64 = t := by omega
  rw [unitsFrom, toNat_ofNat_of_lt (by omega), step]
  dsimp only
  rw [if_pos ⟨hlow, hhigh⟩, hbits, if_neg (by omega)]
  rfl

/-- The last octet of a character ends it. -/
theorem unitsFrom_last (ht : t < 64) (hlow : low ≤ t + 128) (hhigh : t + 128 ≤ high) :
    unitsFrom (some ⟨value, 1, low, high⟩) (UInt8.ofNat (t + 128) :: rest) =
      some (Char.ofNat (value * 64 + t)) :: unitsFrom none rest := by
  have hbits : (t + 128) % 64 = t := by omega
  rw [unitsFrom, toNat_ofNat_of_lt (by omega), step]
  dsimp only
  rw [if_pos ⟨hlow, hhigh⟩, hbits, if_pos rfl]
  rfl

theorem unitsFrom_one (h : v < 0x80) :
    unitsFrom none (UInt8.ofNat v :: rest) = some (Char.ofNat v) :: unitsFrom none rest := by
  rw [unitsFrom, toNat_ofNat_of_lt (by omega), step, start, lead, if_pos h]
  rfl

theorem unitsFrom_two (hlow : 0x80 ≤ v) (hhigh : v < 0x800) :
    unitsFrom none (UInt8.ofNat (v / 64 % 32 + 192) :: UInt8.ofNat (v % 64 + 128) :: rest) =
      some (Char.ofNat v) :: unitsFrom none rest := by
  have hlead : lead (v / 64 % 32 + 192) = some (.inr ⟨v / 64, 1, 0x80, 0xBF⟩) := by
    have hbits : (v / 64 % 32 + 192) % 32 = v / 64 := by omega
    rw [lead, if_neg (by omega), if_neg (by omega), if_pos (by omega), hbits]
  rw [unitsFrom_lead (by omega) hlead, unitsFrom_last (by omega) (by omega) (by omega),
    show v / 64 * 64 + v % 64 = v by omega]

/-- The second octet of three keeps out what two octets are enough for, and the surrogates. -/
theorem unitsFrom_three (hlow : 0x800 ≤ v) (hhigh : v < 0x10000)
    (hvalid : v < 0xd800 ∨ 0xdfff < v) :
    unitsFrom none (UInt8.ofNat (v / 4096 % 16 + 224) :: UInt8.ofNat (v / 64 % 64 + 128) ::
      UInt8.ofNat (v % 64 + 128) :: rest) = some (Char.ofNat v) :: unitsFrom none rest := by
  have hlead : lead (v / 4096 % 16 + 224) = some (.inr ⟨v / 4096, 2,
      if v / 4096 = 0 then 0xA0 else 0x80, if v / 4096 = 13 then 0x9F else 0xBF⟩) := by
    have hbits : (v / 4096 % 16 + 224) % 16 = v / 4096 := by omega
    have hzero : v / 4096 % 16 + 224 = 0xE0 ↔ v / 4096 = 0 := by omega
    have hthirteen : v / 4096 % 16 + 224 = 0xED ↔ v / 4096 = 13 := by omega
    rw [lead, if_neg (by omega), if_neg (by omega), if_neg (by omega), if_pos (by omega), hbits]
    simp only [hzero, hthirteen]
  rw [unitsFrom_lead (by omega) hlead,
    unitsFrom_more (by omega) (by split <;> omega) (by split <;> omega),
    unitsFrom_last (by omega) (by omega) (by omega),
    show (v / 4096 * 64 + v / 64 % 64) * 64 + v % 64 = v by omega]

/-- The second octet of four keeps out what three octets are enough for, and what is no
character. -/
theorem unitsFrom_four (hlow : 0x10000 ≤ v) (hhigh : v < 0x110000) :
    unitsFrom none (UInt8.ofNat (v / 262144 % 8 + 240) :: UInt8.ofNat (v / 4096 % 64 + 128) ::
      UInt8.ofNat (v / 64 % 64 + 128) :: UInt8.ofNat (v % 64 + 128) :: rest) =
        some (Char.ofNat v) :: unitsFrom none rest := by
  have hlead : lead (v / 262144 % 8 + 240) = some (.inr ⟨v / 262144, 3,
      if v / 262144 = 0 then 0x90 else 0x80, if v / 262144 = 4 then 0x8F else 0xBF⟩) := by
    have hbits : (v / 262144 % 8 + 240) % 8 = v / 262144 := by omega
    have hzero : v / 262144 % 8 + 240 = 0xF0 ↔ v / 262144 = 0 := by omega
    have hfour : v / 262144 % 8 + 240 = 0xF4 ↔ v / 262144 = 4 := by omega
    rw [lead, if_neg (by omega), if_neg (by omega), if_neg (by omega), if_neg (by omega),
      if_pos (by omega), hbits]
    simp only [hzero, hfour]
  rw [unitsFrom_lead (by omega) hlead,
    unitsFrom_more (by omega) (by split <;> omega) (by split <;> omega),
    unitsFrom_more (by omega) (by omega) (by omega),
    unitsFrom_last (by omega) (by omega) (by omega),
    show ((v / 262144 * 64 + v / 4096 % 64) * 64 + v / 64 % 64) * 64 + v % 64 = v by omega]

/-- The octets of a character are read as that character. -/
theorem unitsFrom_encode (c : Char) (rest : List UInt8) :
    unitsFrom none (String.utf8EncodeChar c ++ rest) = some c :: unitsFrom none rest := by
  have hvalid : c.val.toNat < 0xd800 ∨ 0xdfff < c.val.toNat ∧ c.val.toNat < 0x110000 := c.valid
  have hself : Char.ofNat c.val.toNat = c := Char.ofNat_toNat c
  unfold String.utf8EncodeChar
  dsimp only
  split
  · rw [List.singleton_append, unitsFrom_one (by omega), hself]
  · split
    · rw [List.cons_append, List.singleton_append, unitsFrom_two (by omega) (by omega), hself]
    · split
      · rw [List.cons_append, List.cons_append, List.singleton_append,
          unitsFrom_three (by omega) (by omega) (by omega), hself]
      · rw [List.cons_append, List.cons_append, List.cons_append, List.singleton_append,
          unitsFrom_four (by omega) (by omega), hself]

theorem units_flatMap (text : List Char) :
    units (text.flatMap String.utf8EncodeChar) = text.map some := by
  induction text with
  | nil => rfl
  | cons c text ih => rw [List.flatMap_cons, units, unitsFrom_encode, ← units, ih, List.map_cons]

/-- **The octets of a text are read as that text.** -/
theorem decode?_toUTF8 (s : String) : decode? s.toUTF8.toList = some s := by
  have hall (text : List Char) : (text.map some).mapM id = some text := by
    induction text with
    | nil => rfl
    | cons c text ih =>
      rw [List.map_cons, List.mapM_cons, ih]
      rfl
  rw [decode?, toList_toUTF8, units_flatMap, hall, Option.map_some, String.ofList_toList]

end ClosureBridge.Utf8
