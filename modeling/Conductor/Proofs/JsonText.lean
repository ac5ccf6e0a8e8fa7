import Mathlib.Data.List.TakeDrop
import Conductor.Json.Reader
import Conductor.Json.Writer

/-!
# Reading back what was written

A JSON value without floating-point numbers is determined by its text. Three facts make it so: an escaped
character is read as the character (`readChars_escape`); a numeral ends where something else than a digit
follows (`readNumber_writeInt`); and no written value begins with a blank or a closing bracket
(`Exact.write_eq_cons`), so the reader never takes one thing for another. `Exact.readsBack` puts them
together, and `Exact.toLine` does so for the line of a value, which ends with the only newline in it.

Floating-point numbers are left out. Their text is rounded and read with further rounding, and nothing that
is written here holds one.
-/

namespace Conductor

namespace Json

/-- A value that its text determines: it holds no floating-point number, and its integers are within the
range that is kept exactly. -/
inductive Exact : Json → Prop where
  | null : Exact .null
  | bool (b : Bool) : Exact (.bool b)
  | int (n : Int) (hleast : Int64.minValue.toInt ≤ n) (hgreatest : n < UInt64.size) : Exact (.int n)
  | str (s : String) : Exact (.str s)
  | arr (items : List Json) (h : ∀ x ∈ items, Exact x) : Exact (.arr items)
  | obj (members : List (String × Json)) (h : ∀ m ∈ members, Exact m.2) : Exact (.obj members)

@[simp] theorem exact_null : Exact .null := .null

@[simp] theorem exact_str (s : String) : Exact (.str s) := .str s

@[simp] theorem exact_obj {members : List (String × Json)} :
    Exact (.obj members) ↔ ∀ m ∈ members, Exact m.2 := by
  constructor
  · intro h
    cases h with
    | obj _ h => exact h
  · exact .obj members

/-! ## Strings -/

/-- The characters with an escape of their own, which is a letter behind a backslash. -/
def namedChars : List Char := ['"', '\\', '\x08', '\x0c', '\n', '\r', '\t']

/-- How a character is escaped: by a letter that names it, by two digits, or not at all. -/
theorem escape_cases (c : Char) :
    (∃ letter, escape c = ['\\', letter] ∧ named? letter = some c) ∨
      (c.toNat < 0x20 ∧
        escape c = ['\\', 'u', '0', '0', hexDigit (c.toNat / 16), hexDigit (c.toNat % 16)]) ∨
      (escape c = [c] ∧ c ≠ '"' ∧ c ≠ '\\' ∧ ¬ c.toNat < 0x20) := by
  by_cases hc : c ∈ namedChars
  · refine Or.inl ?_
    simp only [namedChars, List.mem_cons, List.not_mem_nil, or_false] at hc
    rcases hc with rfl | rfl | rfl | rfl | rfl | rfl | rfl
    · exact ⟨'"', rfl, rfl⟩
    · exact ⟨'\\', rfl, rfl⟩
    · exact ⟨'b', rfl, rfl⟩
    · exact ⟨'f', rfl, rfl⟩
    · exact ⟨'n', rfl, rfl⟩
    · exact ⟨'r', rfl, rfl⟩
    · exact ⟨'t', rfl, rfl⟩
  · simp only [namedChars, List.mem_cons, List.not_mem_nil, or_false, not_or] at hc
    obtain ⟨hquote, hback, hb, hf, hn, hr, ht⟩ := hc
    rw [escape, if_neg hquote, if_neg hback, if_neg hb, if_neg hf, if_neg hn, if_neg hr, if_neg ht]
    by_cases hsmall : c.toNat < 0x20
    · exact Or.inr (Or.inl ⟨hsmall, if_pos hsmall⟩)
    · exact Or.inr (Or.inr ⟨if_neg hsmall, hquote, hback, hsmall⟩)

/-- Two digits are enough for the characters that are escaped by number. -/
theorem hexToNat?_hexDigit : ∀ n, n < 0x20 →
    Digits.hexToNat? ['0', '0', hexDigit (n / 16), hexDigit (n % 16)] = some n := by
  decide

/-- An escaped character is read as the character. -/
theorem readChars_escape (acc : List Char) (c : Char) (rest : List Char) :
    readChars acc (escape c ++ rest) = readChars (c :: acc) rest := by
  rcases escape_cases c with ⟨letter, hesc, hletter⟩ | ⟨hsmall, hesc⟩ | ⟨hesc, hquote, hback, hlarge⟩
  · have hu : letter ≠ 'u' := by
      rintro rfl
      simp [named?] at hletter
    rw [hesc, List.cons_append, List.cons_append, List.nil_append, readChars]
    · rw [hletter]
    · rintro a b c' d rest' rfl
      exact absurd rfl hu
  · simp only [hesc, List.cons_append, List.nil_append, readChars, hexToNat?_hexDigit _ hsmall]
    rw [if_neg (by omega), if_neg (by omega), Char.ofNat_toNat]
  · rw [hesc, List.cons_append, List.nil_append, readChars]
    · rw [if_neg (by simp [hlarge, hback])]
    · exact hquote
    · exact fun _ _ _ _ _ h _ => hback h
    · exact fun _ _ h _ => hback h

/-- The characters of a string are read back, up to the closing quote. -/
theorem readChars_flatMap_escape (acc cs rest : List Char) :
    readChars acc (cs.flatMap escape ++ '"' :: rest) =
      some (String.ofList (acc.reverse ++ cs), rest) := by
  induction cs generalizing acc with
  | nil => simp [readChars]
  | cons c cs ih =>
    rw [List.flatMap_cons, List.append_assoc, readChars_escape, ih, List.reverse_cons,
      List.append_assoc]
    rfl

theorem readChars_writeString (s : String) (rest : List Char) :
    writeString s ++ rest = '"' :: (s.toList.flatMap escape ++ '"' :: rest) ∧
      readChars [] (s.toList.flatMap escape ++ '"' :: rest) = some (s, rest) := by
  constructor
  · simp [writeString]
  · rw [readChars_flatMap_escape, List.reverse_nil, List.nil_append, String.ofList_toList]

/-! ## Numbers -/

/-- What follows does not go on with a numeral. -/
def Stops (rest : List Char) : Prop :=
  ∀ c ∈ rest.head?, c.isDigit = false ∧ c ≠ '.' ∧ c ≠ 'e' ∧ c ≠ 'E'

theorem ofNat_eq_cons (n : Nat) : ∃ d ds, Digits.ofNat n = d :: ds ∧ d.isDigit = true := by
  obtain ⟨d, ds, hds⟩ := List.exists_cons_of_ne_nil (Nat.toDigits_ne_nil (n := n) (b := 10))
  have hmem : d ∈ Nat.toDigits 10 n := by
    rw [hds]
    exact List.mem_cons_self
  exact ⟨d, ds, hds, Digits.isDigit_of_mem_ofNat hmem⟩

/-- A number above zero is written without a zero in front. -/
theorem head?_ofNat_ne_zero {n : Nat} (h : 0 < n) : (Digits.ofNat n).head? ≠ some '0' := by
  induction n using Nat.strongRecOn with
  | _ n ih =>
    by_cases hn : n < 10
    · have hdigit : ∀ m, m < 10 → 0 < m → m.digitChar ≠ '0' := by decide
      rw [Digits.ofNat, Nat.toDigits_of_lt_base hn]
      simpa using hdigit n hn h
    · have hfront := ih (n / 10) (by omega) (by omega)
      have hsplit : Digits.ofNat n = Digits.ofNat (n / 10) ++ [(n % 10).digitChar] :=
        Nat.toDigits_of_base_le (by decide) (by omega)
      obtain ⟨d, ds, hds, -⟩ := ofNat_eq_cons (n / 10)
      rw [hsplit, hds]
      rwa [hds] at hfront

theorem digits?_append {ds rest : List Char} (hne : ds ≠ []) (hds : ∀ c ∈ ds, c.isDigit = true)
    (hrest : Stops rest) : digits? (ds ++ rest) = some (ds, rest) := by
  have hspan : (ds ++ rest).span Char.isDigit = (ds, rest) := by
    rw [List.span_eq_takeWhile_dropWhile, List.takeWhile_append_of_pos hds,
      List.dropWhile_append_of_pos hds]
    cases rest with
    | nil => simp
    | cons c rest => simp [(hrest c rfl).1]
  rw [digits?, hspan]
  cases ds with
  | nil => exact absurd rfl hne
  | cons d ds => rfl

theorem whole?_ofNat (n : Nat) {rest : List Char} (hrest : Stops rest) :
    whole? (Digits.ofNat n ++ rest) = some (Digits.ofNat n, rest) := by
  rcases Nat.eq_zero_or_pos n with rfl | hpos
  · cases rest with
    | nil => rfl
    | cons c rest =>
      have hzero : Digits.ofNat 0 = ['0'] := rfl
      simp [hzero, whole?, (hrest c rfl).1]
  · have hdigits := digits?_append (by simp [Digits.ofNat])
      (fun _ => Digits.isDigit_of_mem_ofNat (n := n)) hrest
    have hhead := head?_ofNat_ne_zero hpos
    obtain ⟨d, ds, hds, -⟩ := ofNat_eq_cons n
    rw [hds] at hdigits hhead ⊢
    rw [List.cons_append] at hdigits ⊢
    rw [whole?]
    · exact hdigits
    · intro _ heq
      exact hhead (congrArg some (List.cons.inj heq).1)

theorem fraction?_of_stops {rest : List Char} (h : Stops rest) : fraction? rest = some (none, rest) := by
  cases rest with
  | nil => rfl
  | cons c rest =>
    rw [fraction?]
    rintro _ heq
    exact (h c rfl).2.1 (List.cons.inj heq).1

theorem exponent?_of_stops {rest : List Char} (h : Stops rest) : exponent? rest = some (none, rest) := by
  cases rest with
  | nil => rfl
  | cons c rest =>
    have he : ¬ (c = 'e' ∨ c = 'E') := not_or.2 (h c rfl).2.2
    simp only [exponent?, if_neg he]

/-- A numeral is read back, with or without its sign. -/
theorem numeral?_ofNat (n : Nat) {rest : List Char} (hrest : Stops rest) :
    numeral? (Digits.ofNat n ++ rest) = some (⟨false, Digits.ofNat n, none, none⟩, rest) ∧
      numeral? ('-' :: (Digits.ofNat n ++ rest)) = some (⟨true, Digits.ofNat n, none, none⟩, rest) := by
  have hwhole := whole?_ofNat n hrest
  have hfraction := fraction?_of_stops hrest
  have hexponent := exponent?_of_stops hrest
  constructor
  · obtain ⟨d, ds, hds, hdigit⟩ := ofNat_eq_cons n
    have hminus : d ≠ '-' := by
      rintro rfl
      cases hdigit
    rw [hds] at hwhole ⊢
    rw [List.cons_append] at hwhole ⊢
    simp [numeral?, hminus, hwhole, hfraction, hexponent]
  · simp [numeral?, hwhole, hfraction, hexponent]

/-- An integer within the range is read back. -/
theorem readNumber_writeInt {n : Int} (hleast : Int64.minValue.toInt ≤ n) (hgreatest : n < UInt64.size)
    {rest : List Char} (hrest : Stops rest) : readNumber (writeInt n ++ rest) = some (.int n, rest) := by
  obtain ⟨hplain, hsigned⟩ := numeral?_ofNat n.natAbs hrest
  unfold writeInt
  by_cases hneg : n < 0
  · have hvalue : (⟨true, Digits.ofNat n.natAbs, none, none⟩ : Numeral).value? = some (.int n) := by
      have habs : (-(n.natAbs : Int)) = n := by omega
      simp only [Numeral.value?, Digits.toNat_ofNat, Option.isNone_none, Bool.and_self, if_true, habs]
      rw [if_pos ⟨by omega, hleast⟩]
    rw [if_pos hneg, List.cons_append, readNumber, hsigned]
    simp [hvalue]
  · have hvalue : (⟨false, Digits.ofNat n.natAbs, none, none⟩ : Numeral).value? = some (.int n) := by
      have habs : (n.natAbs : Int) = n := by omega
      simp only [Numeral.value?, Digits.toNat_ofNat, Option.isNone_none, Bool.and_self, if_true, habs,
        Bool.false_eq_true, if_false]
      rw [if_pos (by omega)]
    rw [if_neg hneg, readNumber, hplain]
    simp [hvalue]

/-! ## Values -/

theorem skipBlanks_cons {c : Char} (h : c ∉ [' ', '\t', '\n', '\r']) (s : List Char) :
    skipBlanks (c :: s) = c :: s := by
  simp only [List.mem_cons, List.not_mem_nil, or_false, not_or] at h
  simp [skipBlanks, h]

/-- A character that is neither a blank nor a closing bracket. -/
def Opens (c : Char) : Prop :=
  c ∉ [' ', '\t', '\n', '\r', ']', '\x7d']

instance : DecidablePred Opens :=
  fun c => inferInstanceAs (Decidable (c ∉ [' ', '\t', '\n', '\r', ']', '\x7d']))

theorem Opens.skipBlanks {c : Char} (h : Opens c) (s : List Char) :
    Json.skipBlanks (c :: s) = c :: s :=
  skipBlanks_cons (fun hc => h (List.mem_append_left [']', '\x7d'] hc)) s

theorem opens_of_isDigit {c : Char} (h : c.isDigit = true) : Opens c := by
  intro hc
  simp only [List.mem_cons, List.not_mem_nil, or_false] at hc
  rcases hc with rfl | rfl | rfl | rfl | rfl | rfl
  all_goals cases h

theorem writeInt_eq_cons (n : Int) : ∃ c s, writeInt n = c :: s ∧ (c = '-' ∨ c.isDigit = true) := by
  unfold writeInt
  obtain ⟨d, ds, hds, hdigit⟩ := ofNat_eq_cons n.natAbs
  split
  · exact ⟨'-', _, rfl, Or.inl rfl⟩
  · exact ⟨d, ds, hds, Or.inr hdigit⟩

/-- The first character of a value is none of those that may stand before or after one. -/
theorem Exact.write_eq_cons {v : Json} (h : Exact v) : ∃ c s, write v = c :: s ∧ Opens c := by
  have hopens : ∀ c ∈ ['n', 't', 'f', '"', '[', '\x7b', '-'], Opens c := by
    simp only [List.mem_cons, List.not_mem_nil, or_false, forall_eq_or_imp, forall_eq]
    decide
  cases h with
  | null => exact ⟨'n', _, by rw [write], hopens _ (by decide)⟩
  | bool b =>
    cases b with
    | true => exact ⟨'t', _, by rw [write], hopens _ (by decide)⟩
    | false => exact ⟨'f', _, by rw [write], hopens _ (by decide)⟩
  | int n =>
    obtain ⟨c, s, hs, hc⟩ := writeInt_eq_cons n
    refine ⟨c, s, by rw [write, hs], ?_⟩
    rcases hc with rfl | hdigit
    · exact hopens _ (by decide)
    · exact opens_of_isDigit hdigit
  | str s => exact ⟨'"', _, by rw [write, writeString], hopens _ (by decide)⟩
  | arr items =>
    cases items with
    | nil => exact ⟨'[', _, by rw [write], hopens _ (by decide)⟩
    | cons x xs => exact ⟨'[', _, by rw [write], hopens _ (by decide)⟩
  | obj members =>
    cases members with
    | nil => exact ⟨'\x7b', _, by rw [write], hopens _ (by decide)⟩
    | cons m ms => exact ⟨'\x7b', _, by rw [write], hopens _ (by decide)⟩

/-- What begins like a number is read as one. -/
theorem readValue_number {c : Char} (h : c = '-' ∨ c.isDigit = true) (fuel : Nat) (s : List Char) :
    readValue (fuel + 1) (c :: s) = readNumber (c :: s) := by
  have hopens : Opens c := by
    rcases h with rfl | hdigit
    · decide
    · exact opens_of_isDigit hdigit
  have hother : ∀ x ∈ ['n', 't', 'f', '"', '[', '\x7b'], c ≠ x := by
    have hnumber : ∀ x ∈ ['n', 't', 'f', '"', '[', '\x7b'], x ≠ '-' ∧ ¬ x.isDigit = true := by
      simp only [List.mem_cons, List.not_mem_nil, or_false, forall_eq_or_imp, forall_eq]
      decide
    rintro x hx rfl
    exact h.elim (hnumber c hx).1 (hnumber c hx).2
  rw [readValue, hopens.skipBlanks]
  split
  case h_7 => rfl
  all_goals next heq => exact absurd (List.cons.inj heq).1 (hother _ (by decide))

/-- The reader takes a written value off the front, with as many steps as the value has characters. -/
def ReadsBack (v : Json) : Prop :=
  ∀ fuel rest, (write v).length ≤ fuel → Stops rest → readValue fuel (write v ++ rest) = some (v, rest)

theorem stops_cons {c : Char} (h : c ∈ [',', ']', '\x7d', '\n']) (rest : List Char) :
    Stops (c :: rest) := by
  have hstops : ∀ c ∈ [',', ']', '\x7d', '\n'], c.isDigit = false ∧ c ≠ '.' ∧ c ≠ 'e' ∧ c ≠ 'E' := by
    simp only [List.mem_cons, List.not_mem_nil, or_false, forall_eq_or_imp, forall_eq]
    decide
  intro c' hc'
  obtain rfl : c = c' := by simpa using hc'
  exact hstops c h

theorem stops_writeItems (xs : List Json) (rest : List Char) : Stops (writeItems xs ++ rest) := by
  cases xs with
  | nil => exact stops_cons (by decide) _
  | cons x xs => exact stops_cons (by decide) _

theorem stops_writeMembers (ms : List (String × Json)) (rest : List Char) :
    Stops (writeMembers ms ++ rest) := by
  cases ms with
  | nil => exact stops_cons (by decide) _
  | cons m ms => exact stops_cons (by decide) _

/-- The items of an array are read back, if each of them is. -/
theorem readItems_write {x : Json} {xs : List Json} (h : ∀ y ∈ x :: xs, ReadsBack y) (fuel : Nat)
    (rest : List Char) (hfuel : (write x).length + (writeItems xs).length ≤ fuel) :
    readItems fuel (write x ++ (writeItems xs ++ rest)) = some (x :: xs, rest) := by
  induction xs generalizing x fuel with
  | nil =>
    cases fuel with
    | zero => simp [writeItems] at hfuel
    | succ fuel =>
      simp only [writeItems, List.length_cons, List.length_nil] at hfuel
      have hx := h x List.mem_cons_self fuel (writeItems [] ++ rest) (by omega) (stops_writeItems _ _)
      rw [readItems, hx]
      simp [writeItems, skipBlanks_cons]
  | cons y ys ih =>
    cases fuel with
    | zero => simp [writeItems] at hfuel
    | succ fuel =>
      simp only [writeItems, List.length_cons, List.length_append] at hfuel
      have hx := h x List.mem_cons_self fuel (writeItems (y :: ys) ++ rest) (by omega)
        (stops_writeItems _ _)
      have hys := ih (fun z hz => h z (List.mem_cons_of_mem x hz)) fuel (by omega)
      rw [readItems, hx]
      simp [writeItems, skipBlanks_cons, hys]

/-- The members of an object are read back, if the value of each of them is. -/
theorem readMembers_write {k : String} {x : Json} {ms : List (String × Json)} (hx : ReadsBack x)
    (hms : ∀ m ∈ ms, ReadsBack m.2) (fuel : Nat) (rest : List Char)
    (hfuel : (write x).length + (writeMembers ms).length ≤ fuel) :
    readMembers fuel (writeString k ++ ':' :: (write x ++ (writeMembers ms ++ rest))) =
      some ((k, x) :: ms, rest) := by
  induction ms generalizing k x fuel with
  | nil =>
    cases fuel with
    | zero => simp [writeMembers] at hfuel
    | succ fuel =>
      simp only [writeMembers, List.length_cons, List.length_nil] at hfuel
      have hvalue := hx fuel (writeMembers [] ++ rest) (by omega) (stops_writeMembers _ _)
      obtain ⟨hk, hchars⟩ := readChars_writeString k (':' :: (write x ++ (writeMembers [] ++ rest)))
      rw [hk, readMembers, skipBlanks_cons (by decide)]
      simp only [hchars, skipBlanks_cons (show ':' ∉ [' ', '\t', '\n', '\r'] by decide), hvalue]
      simp [writeMembers, skipBlanks_cons]
  | cons m ms ih =>
    obtain ⟨k', y⟩ := m
    cases fuel with
    | zero => simp [writeMembers] at hfuel
    | succ fuel =>
      simp only [writeMembers, List.length_cons, List.length_append] at hfuel
      have hvalue := hx fuel (writeMembers ((k', y) :: ms) ++ rest) (by omega) (stops_writeMembers _ _)
      have hmore := ih (k := k') (x := y) (hms (k', y) List.mem_cons_self)
        (fun m hm => hms m (List.mem_cons_of_mem _ hm)) fuel (by omega)
      obtain ⟨hk, hchars⟩ :=
        readChars_writeString k (':' :: (write x ++ (writeMembers ((k', y) :: ms) ++ rest)))
      rw [hk, readMembers, skipBlanks_cons (by decide)]
      simp only [hchars, skipBlanks_cons (show ':' ∉ [' ', '\t', '\n', '\r'] by decide), hvalue]
      simp [writeMembers, skipBlanks_cons, hmore]

/-- Every exact value is read back from its text. -/
theorem Exact.readsBack {v : Json} (h : Exact v) : ReadsBack v := by
  induction h with
  | null =>
    intro fuel rest hfuel _
    cases fuel with
    | zero => simp [write] at hfuel
    | succ fuel => simp [write, readValue, skipBlanks_cons]
  | bool b =>
    intro fuel rest hfuel _
    cases fuel with
    | zero => cases b <;> simp [write] at hfuel
    | succ fuel => cases b <;> simp [write, readValue, skipBlanks_cons]
  | int n hleast hgreatest =>
    intro fuel rest hfuel hrest
    obtain ⟨c, s, hs, hc⟩ := writeInt_eq_cons n
    have hnumber := readNumber_writeInt hleast hgreatest hrest
    rw [write] at hfuel ⊢
    rw [hs] at hfuel hnumber ⊢
    cases fuel with
    | zero => simp at hfuel
    | succ fuel => rw [List.cons_append, readValue_number hc, ← List.cons_append, hnumber]
  | str s =>
    intro fuel rest hfuel _
    obtain ⟨hs, hchars⟩ := readChars_writeString s rest
    rw [write] at hfuel ⊢
    cases fuel with
    | zero => simp [writeString] at hfuel
    | succ fuel => simp [hs, readValue, skipBlanks_cons, hchars]
  | arr items h ih =>
    intro fuel rest hfuel _
    cases fuel with
    | zero => cases items <;> simp [write] at hfuel
    | succ fuel =>
      cases items with
      | nil => simp [write, readValue, skipBlanks_cons]
      | cons x xs =>
        rw [write, List.length_cons, List.length_append] at hfuel
        have hitems := readItems_write ih fuel rest (by omega)
        obtain ⟨c, s, hs, hopens⟩ := (h x List.mem_cons_self).write_eq_cons
        rw [write, List.cons_append, List.append_assoc, readValue, skipBlanks_cons (by decide)]
        rw [hs, List.cons_append] at hitems ⊢
        simp only [hopens.skipBlanks]
        split
        · next heq =>
          -- The first item does not begin with the bracket that closes the array.
          rw [(List.cons.inj heq).1] at hopens
          exact absurd hopens (by decide)
        · rw [hitems]
          rfl
  | obj members h ih =>
    intro fuel rest hfuel _
    cases fuel with
    | zero => cases members <;> simp [write] at hfuel
    | succ fuel =>
      cases members with
      | nil => simp [write, readValue, skipBlanks_cons]
      | cons m ms =>
        obtain ⟨k, x⟩ := m
        rw [write, List.length_cons, List.length_append, List.length_cons, List.length_append] at hfuel
        have hmembers := readMembers_write (k := k) (x := x) (ih (k, x) List.mem_cons_self)
          (fun m hm => ih m (List.mem_cons_of_mem _ hm)) fuel rest (by omega)
        rw [(readChars_writeString k _).1] at hmembers
        rw [write, List.cons_append, List.append_assoc, List.cons_append, List.append_assoc,
          (readChars_writeString k _).1, readValue, skipBlanks_cons (by decide)]
        simp [skipBlanks_cons, hmembers]

/-- The value of a text is read back, whatever blanks come after it. -/
theorem Exact.read?_write {v : Json} (h : Exact v) {rest : List Char} (hstops : Stops rest)
    (hblank : skipBlanks rest = []) : read? (String.ofList (write v ++ rest)) = some v := by
  have hread := h.readsBack ((write v ++ rest).length + 1) rest
    (by rw [List.length_append]; omega) hstops
  simp only [read?, String.toList_ofList, hread, hblank, List.isEmpty_nil, if_true]

/-! ## Lines -/

/-- A text of one line: the only newline in it is at its end. -/
def IsLine (s : String) : Prop :=
  s.toList.count '\n' = 1 ∧ s.toList.getLast? = some '\n'

theorem newline_not_mem_escape (c : Char) : '\n' ∉ escape c := by
  rcases escape_cases c with ⟨letter, hesc, hletter⟩ | ⟨hsmall, hesc⟩ | ⟨hesc, -, -, hlarge⟩
  · have hletter' : letter ≠ '\n' := by
      rintro rfl
      simp [named?] at hletter
    simp [hesc, Ne.symm hletter']
  · have hdigits : ∀ n, n < 0x20 →
        '\n' ∉ ['\\', 'u', '0', '0', hexDigit (n / 16), hexDigit (n % 16)] := by
      decide
    rw [hesc]
    exact hdigits c.toNat hsmall
  · have hc : c ≠ '\n' := by
      rintro rfl
      exact hlarge (by decide)
    simp [hesc, Ne.symm hc]

theorem newline_not_mem_writeString (s : String) : '\n' ∉ writeString s := by
  simp [writeString, newline_not_mem_escape]

theorem newline_not_mem_writeInt (n : Int) : '\n' ∉ writeInt n := by
  have hdigits : '\n' ∉ Digits.ofNat n.natAbs := fun h => by
    cases Digits.isDigit_of_mem_ofNat h
  unfold writeInt
  split
  · simp [hdigits]
  · exact hdigits

theorem newline_not_mem_writeItems {xs : List Json} (h : ∀ x ∈ xs, '\n' ∉ write x) :
    '\n' ∉ writeItems xs := by
  induction xs with
  | nil => simp [writeItems]
  | cons x xs ih =>
    have hrest := ih fun y hy => h y (List.mem_cons_of_mem x hy)
    simp [writeItems, h x List.mem_cons_self, hrest]

theorem newline_not_mem_writeMembers {ms : List (String × Json)} (h : ∀ m ∈ ms, '\n' ∉ write m.2) :
    '\n' ∉ writeMembers ms := by
  induction ms with
  | nil => simp [writeMembers]
  | cons m ms ih =>
    have hrest := ih fun n hn => h n (List.mem_cons_of_mem m hn)
    simp [writeMembers, newline_not_mem_writeString, h m List.mem_cons_self, hrest]

theorem Exact.newline_not_mem_write {v : Json} (h : Exact v) : '\n' ∉ write v := by
  induction h with
  | null => simp [write]
  | bool b => cases b <;> simp [write]
  | int n => simp [write, newline_not_mem_writeInt]
  | str s => simp [write, newline_not_mem_writeString]
  | arr items h ih =>
    cases items with
    | nil => simp [write]
    | cons x xs =>
      have hrest := newline_not_mem_writeItems fun y hy => ih y (List.mem_cons_of_mem x hy)
      simp [write, ih x List.mem_cons_self, hrest]
  | obj members h ih =>
    cases members with
    | nil => simp [write]
    | cons m ms =>
      have hrest := newline_not_mem_writeMembers fun n hn => ih n (List.mem_cons_of_mem m hn)
      simp [write, newline_not_mem_writeString, ih m List.mem_cons_self, hrest]

/-- The line of an exact value is one line, and the value is read back from it. -/
theorem Exact.toLine {v : Json} (h : Exact v) : IsLine v.toLine ∧ read? v.toLine = some v := by
  refine ⟨⟨?_, ?_⟩, h.read?_write (stops_cons (by decide) _) rfl⟩
  · rw [Json.toLine, String.toList_ofList, List.count_append,
      List.count_eq_zero.2 h.newline_not_mem_write]
    rfl
  · rw [Json.toLine, String.toList_ofList, List.getLast?_concat]

end Json

end Conductor
