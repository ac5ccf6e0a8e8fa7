import Mathlib.Data.List.Basic
import Conductor.Text.Utf8

/-!
# Lossy reading

What `decodeLossy` makes of octets, said without the reader. The octets of a character are given by
`String.utf8EncodeChar`, so a string of octets *begins a character* if it is a prefix of those, and the
maximal invalid prefix of a text is the longest front part that begins a character, or one octet where
nothing does (`Invalid`). Reading is then settled by two equations:

* the octets of a character read as the character (`decodeLossy_encodeChar`);
* a maximal invalid prefix reads as one U+FFFD (`decodeLossy_invalid`);

and one of them always applies (`char_or_invalid`). The reader works with a table of first octets and the
bounds of the octets after them; the work is to show that the table describes prefixes of characters and
nothing else (`encodeChar_of_fits`, `encodeChar_cases`, `begins_cons`).
-/

namespace Conductor

namespace Utf8

/-! ## One unit after the other -/

theorem unitsOnto_eq (acc : List (Option Char)) (s : Bytes) :
    unitsOnto acc s = acc.reverse ++ units s := by
  -- The accumulator changes on the way, so the statement is proved for all of them at once.
  induction hn : s.length using Nat.strongRecOn generalizing acc s with
  | _ n ih =>
    cases s with
    | nil => simp [units, unitsOnto]
    | cons b rest =>
      have hshort : (next b rest).2.length < n := by
        have := length_next_le b rest
        simp only [List.length_cons] at hn
        omega
      have hrest := fun acc' => ih _ hshort acc' _ rfl
      have hfront : ∀ acc', unitsOnto acc' (b :: rest) =
          ((next b rest).1 :: acc').reverse ++ units (next b rest).2 := by
        intro acc'
        rw [unitsOnto, hrest]
      rw [units, hfront, hfront]
      simp

@[simp] theorem units_nil : units [] = [] := by
  simp [units, unitsOnto]

theorem units_cons (b : UInt8) (rest : Bytes) :
    units (b :: rest) = (next b rest).1 :: units (next b rest).2 := by
  rw [units, unitsOnto, unitsOnto_eq]
  rfl

@[simp] theorem decodeLossy_nil : decodeLossy [] = "" := by
  simp [decodeLossy]

theorem decodeLossy_cons (b : UInt8) (rest : Bytes) :
    decodeLossy (b :: rest) =
      String.ofList [(next b rest).1.getD replacement] ++ decodeLossy (next b rest).2 := by
  rw [decodeLossy, units_cons, List.map_cons, decodeLossy, ← String.ofList_append]
  rfl

/-! ## Continuation octets -/

/-- Octets that may follow a first one: no more than are owed, the first between the bounds, the others
between 80 and BF. -/
def Fits : Nat → UInt8 → UInt8 → Bytes → Prop
  | _, _, _, [] => True
  | 0, _, _, _ :: _ => False
  | owed + 1, least, greatest, b :: s => (least ≤ b ∧ b ≤ greatest) ∧ Fits owed 0x80 0xBF s

/-- The number that continuation octets make, behind the leading bits. -/
def valueOnto (bits : Nat) (s : Bytes) : Nat :=
  s.foldl (fun n b => n * 64 + (b.toNat - 0x80)) bits

theorem valueOnto_cons (bits : Nat) (b : UInt8) (s : Bytes) :
    valueOnto bits (b :: s) = valueOnto (bits * 64 + (b.toNat - 0x80)) s := by
  rw [valueOnto, List.foldl_cons, valueOnto]

theorem Fits.length_le {owed : Nat} {least greatest : UInt8} {s : Bytes}
    (h : Fits owed least greatest s) : s.length ≤ owed := by
  induction s generalizing owed least greatest with
  | nil => exact Nat.zero_le _
  | cons b s ih =>
    cases owed with
    | zero => exact h.elim
    | succ owed => exact Nat.succ_le_succ (ih h.2)

theorem Fits.of_append {owed : Nat} {least greatest : UInt8} {s t : Bytes}
    (h : Fits owed least greatest (s ++ t)) : Fits owed least greatest s := by
  induction s generalizing owed least greatest with
  | nil => simp [Fits]
  | cons b s ih =>
    cases owed with
    | zero => exact h.elim
    | succ owed => exact ⟨h.1, ih h.2⟩

/-- What fits can be continued until nothing is owed. -/
theorem Fits.complete {owed : Nat} {least greatest : UInt8} {s : Bytes}
    (h : Fits owed least greatest s) (hle : least ≤ greatest) :
    ∃ t, Fits owed least greatest (s ++ t) ∧ (s ++ t).length = owed := by
  induction owed generalizing least greatest s with
  | zero =>
    obtain rfl : s = [] := List.eq_nil_of_length_eq_zero (Nat.le_zero.1 h.length_le)
    exact ⟨[], trivial, rfl⟩
  | succ owed ih =>
    cases s with
    | nil =>
      have hnil : Fits owed 0x80 0xBF [] := by simp [Fits]
      obtain ⟨t, ht, hlen⟩ := ih hnil (by decide)
      exact ⟨least :: t, ⟨⟨UInt8.le_refl _, hle⟩, ht⟩, congrArg Nat.succ hlen⟩
    | cons b s =>
      obtain ⟨t, ht, hlen⟩ := ih h.2 (by decide)
      exact ⟨t, ⟨h.1, ht⟩, congrArg Nat.succ hlen⟩

/-- All that is owed is taken off the front, and it makes a number. -/
theorem continuation_of_fits {owed : Nat} {least greatest : UInt8} {s : Bytes}
    (h : Fits owed least greatest s) (hlen : s.length = owed) (bits : Nat) (rest : Bytes) :
    continuation owed least greatest bits (s ++ rest) = (some (valueOnto bits s), rest) := by
  induction s generalizing owed least greatest bits with
  | nil =>
    subst hlen
    simp [continuation, valueOnto]
  | cons b s ih =>
    subst hlen
    rw [List.cons_append, List.length_cons, continuation, if_pos h.1, ih h.2 rfl, valueOnto_cons]

/-- The reader takes as many octets as fit. Either that is all that is owed, or what comes next does
not fit. -/
theorem continuation_cases (owed : Nat) (least greatest : UInt8) (bits : Nat) (s : Bytes) :
    ∃ taken rest, s = taken ++ rest ∧ Fits owed least greatest taken ∧
      ((taken.length = owed ∧
          continuation owed least greatest bits s = (some (valueOnto bits taken), rest)) ∨
        (taken.length < owed ∧ continuation owed least greatest bits s = (none, rest) ∧
          ∀ b, [b] <+: rest → ¬ Fits owed least greatest (taken ++ [b]))) := by
  induction owed generalizing least greatest bits s with
  | zero => exact ⟨[], s, rfl, by simp [Fits], Or.inl ⟨rfl, by simp [continuation, valueOnto]⟩⟩
  | succ owed ih =>
    cases s with
    | nil =>
      refine ⟨[], [], rfl, by simp [Fits], Or.inr ⟨Nat.succ_pos _, by simp [continuation], ?_⟩⟩
      intro b hb
      simp at hb
    | cons b s =>
      by_cases hb : least ≤ b ∧ b ≤ greatest
      · obtain ⟨taken, rest, rfl, hfits, hcases⟩ :=
          ih 0x80 0xBF (bits * 64 + (b.toNat - 0x80)) s
        refine ⟨b :: taken, rest, rfl, ⟨hb, hfits⟩, ?_⟩
        rw [continuation, if_pos hb, valueOnto_cons]
        rcases hcases with ⟨hlen, heq⟩ | ⟨hlen, heq, hstop⟩
        · exact Or.inl ⟨congrArg Nat.succ hlen, heq⟩
        · exact Or.inr ⟨Nat.succ_lt_succ hlen, heq, fun x hx hfit => hstop x hx hfit.2⟩
      · refine ⟨[], b :: s, rfl, by simp [Fits], Or.inr ⟨Nat.succ_pos _, ?_, ?_⟩⟩
        · rw [continuation, if_neg hb]
        · intro x hx hfit
          obtain rfl : x = b := by simpa using hx
          exact hb hfit.1

/-! ## First octets -/

/-- The table of first octets by the number of octets that they owe. The bounds differ from 80 and BF
only next to what must not be written: overlong forms, surrogates, and values above U+10FFFF. -/
theorem lead?_eq (b : UInt8) : lead? b =
    if b.toNat < 0xC2 then none
    else if b.toNat < 0xE0 then some ⟨1, 0x80, 0xBF, b.toNat - 0xC0⟩
    else if b.toNat < 0xF0 then
      some ⟨2, if b.toNat = 0xE0 then 0xA0 else 0x80, if b.toNat = 0xED then 0x9F else 0xBF,
        b.toNat - 0xE0⟩
    else if b.toNat < 0xF5 then
      some ⟨3, if b.toNat = 0xF0 then 0x90 else 0x80, if b.toNat = 0xF4 then 0x8F else 0xBF,
        b.toNat - 0xF0⟩
    else none := by
  have htable : ∀ n, n < 256 → lead? (UInt8.ofNat n) =
      if n < 0xC2 then none
      else if n < 0xE0 then some ⟨1, 0x80, 0xBF, n - 0xC0⟩
      else if n < 0xF0 then
        some ⟨2, if n = 0xE0 then 0xA0 else 0x80, if n = 0xED then 0x9F else 0xBF, n - 0xE0⟩
      else if n < 0xF5 then
        some ⟨3, if n = 0xF0 then 0x90 else 0x80, if n = 0xF4 then 0x8F else 0xBF, n - 0xF0⟩
      else none := by
    decide +kernel
  have h := htable b.toNat b.toNat_lt_size
  rwa [UInt8.ofNat_toNat] at h

/-! ## Characters -/

theorem toNat_ofNat {n : Nat} (h : n.isValidChar) : (Char.ofNat n).toNat = n := by
  rw [Char.ofNat, dif_pos h]
  rfl

/-- A single octet below 80 is a character. -/
theorem encodeChar_of_lt {b : UInt8} (h : b < 0x80) :
    String.utf8EncodeChar (Char.ofNat b.toNat) = [b] := by
  have hb : b.toNat < 128 := UInt8.lt_iff_toNat_lt.1 h
  have hv : (Char.ofNat b.toNat).val.toNat = b.toNat := toNat_ofNat (by unfold Nat.isValidChar; omega)
  simp only [String.utf8EncodeChar, hv]
  rw [if_pos (by omega), UInt8.ofNat_toNat]

/-- A continuation octet, and what the bounds next to forbidden values ask of it. -/
theorem bounds_iff {p q : Prop} [Decidable p] [Decidable q] {least greatest x : UInt8}
    (hleast : 0x80 ≤ least.toNat) (hgreatest : greatest.toNat ≤ 0xBF) :
    ((if p then least else 0x80) ≤ x ∧ x ≤ if q then greatest else 0xBF) ↔
      (0x80 ≤ x.toNat ∧ x.toNat ≤ 0xBF) ∧ (p → least.toNat ≤ x.toNat) ∧
        (q → x.toNat ≤ greatest.toNat) := by
  by_cases hp : p <;> by_cases hq : q <;>
    simp only [hp, hq, if_true, if_false, true_imp_iff, false_imp_iff, UInt8.le_iff_toNat_le,
      UInt8.reduceToNat, and_true, true_and] <;> omega

theorem encodeChar_two {b x : UInt8} (hb : 0xC2 ≤ b.toNat ∧ b.toNat < 0xE0)
    (hx : 0x80 ≤ x.toNat ∧ x.toNat ≤ 0xBF) :
    String.utf8EncodeChar (Char.ofNat ((b.toNat - 0xC0) * 64 + (x.toNat - 0x80))) = [b, x] := by
  generalize hn : (b.toNat - 0xC0) * 64 + (x.toNat - 0x80) = n
  have hv : (Char.ofNat n).val.toNat = n := toNat_ofNat (by unfold Nat.isValidChar; omega)
  have h₀ : n / 64 % 32 + 192 = b.toNat := by omega
  have h₁ : n % 64 + 128 = x.toNat := by omega
  simp only [String.utf8EncodeChar, hv]
  rw [if_neg (by omega), if_pos (by omega), h₀, h₁, UInt8.ofNat_toNat, UInt8.ofNat_toNat]

theorem encodeChar_three {b x y : UInt8} (hb : 0xE0 ≤ b.toNat ∧ b.toNat < 0xF0)
    (hx : (0x80 ≤ x.toNat ∧ x.toNat ≤ 0xBF) ∧ (b.toNat = 0xE0 → 0xA0 ≤ x.toNat) ∧
      (b.toNat = 0xED → x.toNat ≤ 0x9F))
    (hy : 0x80 ≤ y.toNat ∧ y.toNat ≤ 0xBF) :
    String.utf8EncodeChar
      (Char.ofNat (((b.toNat - 0xE0) * 64 + (x.toNat - 0x80)) * 64 + (y.toNat - 0x80))) =
        [b, x, y] := by
  generalize hn : ((b.toNat - 0xE0) * 64 + (x.toNat - 0x80)) * 64 + (y.toNat - 0x80) = n
  have hv : (Char.ofNat n).val.toNat = n := toNat_ofNat (by unfold Nat.isValidChar; omega)
  have h₀ : n / 4096 % 16 + 224 = b.toNat := by omega
  have h₁ : n / 64 % 64 + 128 = x.toNat := by omega
  have h₂ : n % 64 + 128 = y.toNat := by omega
  simp only [String.utf8EncodeChar, hv]
  rw [if_neg (by omega), if_neg (by omega), if_pos (by omega), h₀, h₁, h₂, UInt8.ofNat_toNat,
    UInt8.ofNat_toNat, UInt8.ofNat_toNat]

theorem encodeChar_four {b x y z : UInt8} (hb : 0xF0 ≤ b.toNat ∧ b.toNat < 0xF5)
    (hx : (0x80 ≤ x.toNat ∧ x.toNat ≤ 0xBF) ∧ (b.toNat = 0xF0 → 0x90 ≤ x.toNat) ∧
      (b.toNat = 0xF4 → x.toNat ≤ 0x8F))
    (hy : 0x80 ≤ y.toNat ∧ y.toNat ≤ 0xBF) (hz : 0x80 ≤ z.toNat ∧ z.toNat ≤ 0xBF) :
    String.utf8EncodeChar
      (Char.ofNat ((((b.toNat - 0xF0) * 64 + (x.toNat - 0x80)) * 64 + (y.toNat - 0x80)) * 64 +
        (z.toNat - 0x80))) = [b, x, y, z] := by
  generalize hn : (((b.toNat - 0xF0) * 64 + (x.toNat - 0x80)) * 64 + (y.toNat - 0x80)) * 64 +
    (z.toNat - 0x80) = n
  have hv : (Char.ofNat n).val.toNat = n := toNat_ofNat (by unfold Nat.isValidChar; omega)
  have h₀ : n / 262144 % 8 + 240 = b.toNat := by omega
  have h₁ : n / 4096 % 64 + 128 = x.toNat := by omega
  have h₂ : n / 64 % 64 + 128 = y.toNat := by omega
  have h₃ : n % 64 + 128 = z.toNat := by omega
  simp only [String.utf8EncodeChar, hv]
  rw [if_neg (by omega), if_neg (by omega), if_neg (by omega), h₀, h₁, h₂, h₃, UInt8.ofNat_toNat,
    UInt8.ofNat_toNat, UInt8.ofNat_toNat, UInt8.ofNat_toNat]

/-- A first octet and all that it owes are a character. -/
theorem encodeChar_of_fits {b : UInt8} {l : Lead} {tail : Bytes} (hl : lead? b = some l)
    (hfits : Fits l.owed l.least l.greatest tail) (hlen : tail.length = l.owed) :
    String.utf8EncodeChar (Char.ofNat (valueOnto l.bits tail)) = b :: tail := by
  rw [lead?_eq] at hl
  split at hl
  · cases hl
  split at hl
  · cases hl
    obtain ⟨x, rfl⟩ := List.length_eq_one_iff.1 hlen
    simp only [Fits, and_true, UInt8.le_iff_toNat_le, UInt8.reduceToNat] at hfits
    exact encodeChar_two (by omega) hfits
  split at hl
  · cases hl
    obtain ⟨x, y, rfl⟩ := List.length_eq_two.1 hlen
    obtain ⟨hx, hy, -⟩ := hfits
    exact encodeChar_three (by omega) ((bounds_iff (by decide) (by decide)).1 hx)
      (by simpa only [UInt8.le_iff_toNat_le, UInt8.reduceToNat] using hy)
  split at hl
  · cases hl
    obtain ⟨x, y, z, rfl⟩ := List.length_eq_three.1 hlen
    obtain ⟨hx, hy, hz, -⟩ := hfits
    exact encodeChar_four (by omega) ((bounds_iff (by decide) (by decide)).1 hx)
      (by simpa only [UInt8.le_iff_toNat_le, UInt8.reduceToNat] using hy)
      (by simpa only [UInt8.le_iff_toNat_le, UInt8.reduceToNat] using hz)
  · cases hl

/-- The octets are a first octet and all that it owes, and they make the number. -/
def Spells (octets : Bytes) (n : Nat) : Prop :=
  ∃ b l tail, octets = b :: tail ∧ lead? b = some l ∧ Fits l.owed l.least l.greatest tail ∧
    tail.length = l.owed ∧ valueOnto l.bits tail = n

theorem toNat_octet {k : Nat} (h : k < 256) : (UInt8.ofNat k).toNat = k :=
  UInt8.toNat_ofNat_of_lt' h

/-- Six bits make a continuation octet. -/
theorem fits_octet (k : Nat) : Fits 1 0x80 0xBF [UInt8.ofNat (k % 64 + 128)] := by
  simp only [Fits, and_true, UInt8.le_iff_toNat_le, toNat_octet (show k % 64 + 128 < 256 by omega),
    UInt8.reduceToNat]
  omega

theorem spells_two {n : Nat} (h : 0x7F < n ∧ n ≤ 0x7FF) :
    Spells [UInt8.ofNat (n / 64 % 32 + 192), UInt8.ofNat (n % 64 + 128)] n := by
  have hb := toNat_octet (k := n / 64 % 32 + 192) (by omega)
  have hx := toNat_octet (k := n % 64 + 128) (by omega)
  have hlead := lead?_eq (UInt8.ofNat (n / 64 % 32 + 192))
  rw [hb, if_neg (by omega), if_pos (by omega)] at hlead
  refine ⟨_, _, _, rfl, hlead, fits_octet n, rfl, ?_⟩
  simp only [valueOnto, List.foldl_cons, List.foldl_nil, hx]
  omega

theorem spells_three {n : Nat} (h : 0x7FF < n ∧ n ≤ 0xFFFF) (hvalid : n < 0xD800 ∨ 0xDFFF < n) :
    Spells [UInt8.ofNat (n / 4096 % 16 + 224), UInt8.ofNat (n / 64 % 64 + 128),
      UInt8.ofNat (n % 64 + 128)] n := by
  have hb := toNat_octet (k := n / 4096 % 16 + 224) (by omega)
  have hx := toNat_octet (k := n / 64 % 64 + 128) (by omega)
  have hy := toNat_octet (k := n % 64 + 128) (by omega)
  have hlead := lead?_eq (UInt8.ofNat (n / 4096 % 16 + 224))
  rw [hb, if_neg (by omega), if_neg (by omega), if_pos (by omega)] at hlead
  refine ⟨_, _, _, rfl, hlead, ⟨(bounds_iff (by decide) (by decide)).2 ?_, fits_octet n⟩, rfl, ?_⟩
  · simp only [hx, UInt8.reduceToNat]
    omega
  · simp only [valueOnto, List.foldl_cons, List.foldl_nil, hx, hy]
    omega

theorem spells_four {n : Nat} (h : 0xFFFF < n ∧ n < 0x110000) :
    Spells [UInt8.ofNat (n / 262144 % 8 + 240), UInt8.ofNat (n / 4096 % 64 + 128),
      UInt8.ofNat (n / 64 % 64 + 128), UInt8.ofNat (n % 64 + 128)] n := by
  have hb := toNat_octet (k := n / 262144 % 8 + 240) (by omega)
  have hx := toNat_octet (k := n / 4096 % 64 + 128) (by omega)
  have hy := toNat_octet (k := n / 64 % 64 + 128) (by omega)
  have hz := toNat_octet (k := n % 64 + 128) (by omega)
  have hlead := lead?_eq (UInt8.ofNat (n / 262144 % 8 + 240))
  rw [hb, if_neg (by omega), if_neg (by omega), if_neg (by omega), if_pos (by omega)] at hlead
  refine ⟨_, _, _, rfl, hlead,
    ⟨(bounds_iff (by decide) (by decide)).2 ?_, (fits_octet _).1, fits_octet n⟩, rfl, ?_⟩
  · simp only [hx, UInt8.reduceToNat]
    omega
  · simp only [valueOnto, List.foldl_cons, List.foldl_nil, hx, hy, hz]
    omega

/-- The octets of a character are a single one, or a first octet and all that it owes. -/
theorem encodeChar_cases (c : Char) :
    (∃ b : UInt8, String.utf8EncodeChar c = [b] ∧ b < 0x80 ∧ b.toNat = c.toNat) ∨
      Spells (String.utf8EncodeChar c) c.toNat := by
  have hvalid : c.val.toNat < 0xD800 ∨ 0xDFFF < c.val.toNat ∧ c.val.toNat < 0x110000 := c.valid
  have hc : c.toNat = c.val.toNat := rfl
  rw [hc]
  generalize hn : c.val.toNat = n at hvalid
  simp only [String.utf8EncodeChar, hn]
  by_cases h₁ : n ≤ 0x7F
  · rw [if_pos h₁]
    have hb := toNat_octet (k := n) (by omega)
    refine Or.inl ⟨UInt8.ofNat n, rfl, ?_, hb⟩
    rw [UInt8.lt_iff_toNat_lt, hb]
    exact Nat.lt_succ_of_le h₁
  refine Or.inr ?_
  rw [if_neg h₁]
  by_cases h₂ : n ≤ 0x7FF
  · rw [if_pos h₂]
    exact spells_two (by omega)
  rw [if_neg h₂]
  by_cases h₃ : n ≤ 0xFFFF
  · rw [if_pos h₃]
    exact spells_three (by omega) (by omega)
  · rw [if_neg h₃]
    exact spells_four (by omega)

/-! ## What begins a character, and what does not -/

/-- The octets are those of a character, or the first of them. -/
def Begins (m : Bytes) : Prop :=
  ∃ c, m <+: String.utf8EncodeChar c

theorem least_le_greatest {b : UInt8} {l : Lead} (h : lead? b = some l) : l.least ≤ l.greatest := by
  have htable : ∀ n, n < 256 →
      ((lead? (UInt8.ofNat n)).all fun l => decide (l.least ≤ l.greatest)) = true := by
    decide +kernel
  have hb := htable b.toNat b.toNat_lt_size
  rw [UInt8.ofNat_toNat, h] at hb
  exact of_decide_eq_true hb

/-- Beginnings of characters are what the table allows. -/
theorem begins_cons {b : UInt8} {tail : Bytes} :
    Begins (b :: tail) ↔
      (b < 0x80 ∧ tail = []) ∨ ∃ l, lead? b = some l ∧ Fits l.owed l.least l.greatest tail := by
  constructor
  · rintro ⟨c, more, hmore⟩
    rcases encodeChar_cases c with ⟨x, hx, hlt, -⟩ | ⟨x, l, t, ht, hl, hfits, -⟩
    · rw [hx, List.cons_append, List.cons.injEq, List.append_eq_nil_iff] at hmore
      obtain ⟨rfl, rfl, -⟩ := hmore
      exact Or.inl ⟨hlt, rfl⟩
    · rw [ht, List.cons_append, List.cons.injEq] at hmore
      obtain ⟨rfl, rfl⟩ := hmore
      exact Or.inr ⟨l, hl, hfits.of_append⟩
  · rintro (⟨hlt, rfl⟩ | ⟨l, hl, hfits⟩)
    · exact ⟨_, [], by rw [encodeChar_of_lt hlt, List.append_nil]⟩
    · obtain ⟨more, hmore, hlen⟩ := hfits.complete (least_le_greatest hl)
      exact ⟨_, more, by rw [encodeChar_of_fits hl hmore hlen, List.cons_append]⟩

/-- `m` is the maximal invalid prefix of `m ++ rest`: where no character stands at the front, the longest
front part that begins one, and at least one octet. -/
structure Invalid (m rest : Bytes) : Prop where
  ne_nil : m ≠ []
  no_char : ∀ c, ¬ String.utf8EncodeChar c <+: m ++ rest
  small : m.length = 1 ∨ Begins m
  longest : ∀ front, front <+: m ++ rest → Begins front → front.length ≤ m.length

/-- A text has one maximal invalid prefix at most. -/
theorem Invalid.unique {m rest m' rest' : Bytes} (h : Invalid m rest) (h' : Invalid m' rest')
    (heq : m ++ rest = m' ++ rest') : m = m' ∧ rest = rest' := by
  have hle : ∀ {x y u v : Bytes}, Invalid x u → Invalid y v → x ++ u = y ++ v →
      y.length ≤ x.length := by
    intro x y u v hx hy hxy
    rcases hy.small with hone | hbegins
    · have := List.length_pos_iff.2 hx.ne_nil
      omega
    · exact hx.longest y (hxy ▸ List.prefix_append y v) hbegins
  exact List.append_inj heq (Nat.le_antisymm (hle h' h heq.symm) (hle h h' heq))

/-! ## What the reader takes off the front -/

/-- The reader takes a character off the front where one stands. -/
theorem next_encodeChar (c : Char) (rest : Bytes) :
    ∃ b tail, String.utf8EncodeChar c = b :: tail ∧ next b (tail ++ rest) = (some c, rest) := by
  rcases encodeChar_cases c with ⟨b, hb, hlt, hn⟩ | ⟨b, l, tail, ht, hl, hfits, hlen, hn⟩
  · refine ⟨b, [], hb, ?_⟩
    rw [next, if_pos hlt, hn, Char.ofNat_toNat]
    rfl
  · have hge : ¬ b < 0x80 := by
      intro hlt
      rw [lead?_eq, if_pos (Nat.lt_trans (UInt8.lt_iff_toNat_lt.1 hlt) (by decide))] at hl
      cases hl
    refine ⟨b, tail, ht, ?_⟩
    simp only [next, if_neg hge, hl, continuation_of_fits hfits hlen, hn, Option.map_some,
      Char.ofNat_toNat]

/-- What fits at the front is no longer than what the reader took, if what comes next does not fit. -/
theorem length_le_of_stop {owed : Nat} {least greatest : UInt8} {taken rest t : Bytes}
    (hstop : ∀ b, [b] <+: rest → ¬ Fits owed least greatest (taken ++ [b]))
    (ht : t <+: taken ++ rest) (hfits : Fits owed least greatest t) : t.length ≤ taken.length := by
  refine Nat.le_of_not_lt fun hlong => ?_
  obtain ⟨more, rfl⟩ :=
    List.prefix_of_prefix_length_le (List.prefix_append taken rest) ht (Nat.le_of_lt hlong)
  cases more with
  | nil => simp at hlong
  | cons x more =>
    obtain ⟨rest', rfl⟩ := (List.prefix_append_right_inj taken).1 ht
    refine hstop x ⟨more ++ rest', rfl⟩ ?_
    rw [List.append_cons] at hfits
    exact hfits.of_append

/-- Where no character stands, the reader takes off the maximal invalid prefix. -/
theorem next_invalid {b : UInt8} {s : Bytes} (h : ∀ c, ¬ String.utf8EncodeChar c <+: b :: s) :
    (next b s).1 = none ∧ ∃ m, b :: s = m ++ (next b s).2 ∧ Invalid m (next b s).2 := by
  have hge : ¬ b < 0x80 := by
    intro hlt
    exact h _ (by rw [encodeChar_of_lt hlt]; exact ⟨s, rfl⟩)
  -- A beginning at the front starts with `b`, so the table has an entry for `b` and the rest fits.
  have hfront : ∀ front, front <+: b :: s → Begins front → front ≠ [] →
      ∃ t l, front = b :: t ∧ t <+: s ∧ lead? b = some l ∧ Fits l.owed l.least l.greatest t := by
    intro front hprefix hbegins hne
    obtain ⟨x, t, rfl⟩ := List.exists_cons_of_ne_nil hne
    obtain ⟨rfl, ht⟩ := List.cons_prefix_cons.1 hprefix
    rcases begins_cons.1 hbegins with ⟨hlt, -⟩ | ⟨l, hl, hfits⟩
    · exact absurd hlt hge
    · exact ⟨t, l, rfl, ht, hl, hfits⟩
  cases hl : lead? b with
  | none =>
    simp only [next, if_neg hge, hl, true_and]
    refine ⟨[b], rfl, by simp, h, Or.inl rfl, ?_⟩
    intro front hprefix hbegins
    by_cases hne : front = []
    · simp [hne]
    · obtain ⟨t, l, -, -, hl', -⟩ := hfront front hprefix hbegins hne
      rw [hl] at hl'
      cases hl'
  | some l =>
    obtain ⟨taken, rest, rfl, hfits, ⟨hlen, -⟩ | ⟨-, heq, hstop⟩⟩ :=
      continuation_cases l.owed l.least l.greatest l.bits s
    · -- All that is owed is there, so a character stands at the front.
      refine absurd ?_ (h (Char.ofNat (valueOnto l.bits taken)))
      rw [encodeChar_of_fits hl hfits hlen]
      exact ⟨rest, rfl⟩
    · simp only [next, if_neg hge, hl, heq, Option.map_none, true_and]
      refine ⟨b :: taken, rfl, by simp, h, Or.inr (begins_cons.2 (Or.inr ⟨l, hl, hfits⟩)), ?_⟩
      intro front hprefix hbegins
      by_cases hne : front = []
      · simp [hne]
      · obtain ⟨t, l', rfl, ht, hl', hfits'⟩ := hfront front hprefix hbegins hne
        obtain rfl : l = l' := Option.some.inj (hl.symm.trans hl')
        exact Nat.succ_le_succ (length_le_of_stop hstop ht hfits')

/-! ## Reading -/

/-- A character reads as itself. -/
theorem decodeLossy_encodeChar (c : Char) (rest : Bytes) :
    decodeLossy (String.utf8EncodeChar c ++ rest) = String.ofList [c] ++ decodeLossy rest := by
  obtain ⟨b, tail, hc, hnext⟩ := next_encodeChar c rest
  rw [hc, List.cons_append, decodeLossy_cons, hnext]
  rfl

/-- Text at the front reads as itself, whatever comes after it. -/
theorem decodeLossy_encode_append (s : String) (rest : Bytes) :
    decodeLossy (encode s ++ rest) = s ++ decodeLossy rest := by
  have hlist : ∀ cs : List Char, decodeLossy (cs.flatMap String.utf8EncodeChar ++ rest) =
      String.ofList cs ++ decodeLossy rest := by
    intro cs
    induction cs with
    | nil => simp
    | cons c cs ih =>
      rw [List.flatMap_cons, List.append_assoc, decodeLossy_encodeChar, ih, ← String.append_assoc,
        ← String.ofList_append]
      rfl
  rw [encode, hlist, String.ofList_toList]

/-- Text reads as itself. -/
theorem decodeLossy_encode (s : String) : decodeLossy (encode s) = s := by
  have h := decodeLossy_encode_append s []
  rwa [List.append_nil, decodeLossy_nil, String.append_empty] at h

/-- A maximal invalid prefix reads as one U+FFFD. -/
theorem decodeLossy_invalid {m rest : Bytes} (h : Invalid m rest) :
    decodeLossy (m ++ rest) = String.ofList [replacement] ++ decodeLossy rest := by
  obtain ⟨b, tail, rfl⟩ := List.exists_cons_of_ne_nil h.ne_nil
  obtain ⟨hnone, m', heq, h'⟩ := next_invalid (b := b) (s := tail ++ rest) h.no_char
  obtain ⟨-, hrest⟩ := h.unique h' heq
  rw [List.cons_append, decodeLossy_cons, hnone, ← hrest]
  rfl

/-- At the front of octets stands a character or a maximal invalid prefix. -/
theorem char_or_invalid {s : Bytes} (h : s ≠ []) :
    (∃ c rest, s = String.utf8EncodeChar c ++ rest) ∨ ∃ m rest, s = m ++ rest ∧ Invalid m rest := by
  by_cases hchar : ∃ c, String.utf8EncodeChar c <+: s
  · obtain ⟨c, rest, hrest⟩ := hchar
    exact Or.inl ⟨c, rest, hrest.symm⟩
  · obtain ⟨b, tail, rfl⟩ := List.exists_cons_of_ne_nil h
    obtain ⟨-, m, heq, hinvalid⟩ := next_invalid fun c hc => hchar ⟨c, hc⟩
    exact Or.inr ⟨m, _, heq, hinvalid⟩

/-! ## Reading what is text throughout -/

theorem units_encodeChar (c : Char) (rest : Bytes) :
    units (String.utf8EncodeChar c ++ rest) = some c :: units rest := by
  obtain ⟨b, tail, hc, hnext⟩ := next_encodeChar c rest
  rw [hc, List.cons_append, units_cons, hnext]

theorem units_encode (s : String) : units (encode s) = s.toList.map some := by
  unfold encode
  induction s.toList with
  | nil => exact units_nil
  | cons c cs ih => rw [List.flatMap_cons, units_encodeChar, ih, List.map_cons]

/-- Octets without an invalid unit are those of the characters in them. -/
theorem flatMap_units {s : Bytes} (h : ∀ u ∈ units s, u.isSome = true) :
    ((units s).filterMap id).flatMap String.utf8EncodeChar = s := by
  induction hn : s.length using Nat.strongRecOn generalizing s with
  | _ n ih =>
    by_cases hs : s = []
    · simp [hs]
    rcases char_or_invalid hs with ⟨c, rest, rfl⟩ | ⟨m, rest, rfl, hinvalid⟩
    · rw [units_encodeChar] at h ⊢
      have hshort : rest.length < n := by
        obtain ⟨b, tail, hc, -⟩ := next_encodeChar c rest
        rw [hc] at hn
        simp only [List.cons_append, List.length_cons, List.length_append] at hn
        omega
      have hrest := ih _ hshort (List.forall_mem_cons.1 h).2 rfl
      have hfirst : (some c :: units rest).filterMap id = c :: (units rest).filterMap id := rfl
      rw [hfirst, List.flatMap_cons, hrest]
    · obtain ⟨b, tail, rfl⟩ := List.exists_cons_of_ne_nil hinvalid.ne_nil
      have hnone := (next_invalid (b := b) (s := tail ++ rest) hinvalid.no_char).1
      have hfirst := h (next b (tail ++ rest)).1 (by rw [List.cons_append, units_cons]; exact .head _)
      rw [hnone] at hfirst
      cases hfirst

/-- Octets are read as text exactly if they are those of the text. -/
theorem decode?_eq_some_iff {s : Bytes} {text : String} : decode? s = some text ↔ s = encode text := by
  unfold decode?
  dsimp only
  constructor
  · intro h
    split at h
    · next hall =>
      obtain rfl := Option.some.inj h
      rw [encode, String.toList_ofList, flatMap_units (List.all_eq_true.1 hall)]
    · cases h
  · rintro rfl
    have hall : (text.toList.map some).all Option.isSome = true := by simp
    rw [units_encode, if_pos hall, List.filterMap_map]
    simp

end Utf8

end Conductor
