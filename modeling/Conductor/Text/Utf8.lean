/-!
# Text and octets

The operating system deals in octets: file contents, what a program prints, the values of
environment variables, the names in a path. Text is UTF-8 in it, when it is text at all.

`encode` writes text as octets. Reading goes through `units`, which cuts octets into characters and
*maximal invalid prefixes*: wherever no character begins, the longest run that could still have begun
one (at least one octet) is cut off as one unit. `decode?` reads octets that are text throughout, and
`decodeLossy` puts U+FFFD for every invalid unit, so it reads anything.
-/

namespace Conductor

/-- A string of octets, as the operating system holds it. -/
abbrev Bytes := List UInt8

namespace Utf8

/-- The octets of a text. -/
def encode (s : String) : Bytes :=
  s.toList.flatMap String.utf8EncodeChar

/-- What a first octet promises of a character of more than one octet: how many continuation octets
are owed, between which bounds the first of them lies, and the leading bits of the character. -/
structure Lead where
  owed : Nat
  least : UInt8
  greatest : UInt8
  bits : Nat
  deriving DecidableEq, Repr

/-- The promise of a first octet, if a character of more than one octet can begin with it. The bounds
keep out overlong forms, surrogates and values above U+10FFFF. -/
def lead? (b : UInt8) : Option Lead :=
  if b < 0xC2 then none
  else if b < 0xE0 then some ⟨1, 0x80, 0xBF, b.toNat - 0xC0⟩
  else if b = 0xE0 then some ⟨2, 0xA0, 0xBF, 0⟩
  else if b = 0xED then some ⟨2, 0x80, 0x9F, 13⟩
  else if b < 0xF0 then some ⟨2, 0x80, 0xBF, b.toNat - 0xE0⟩
  else if b = 0xF0 then some ⟨3, 0x90, 0xBF, 0⟩
  else if b < 0xF4 then some ⟨3, 0x80, 0xBF, b.toNat - 0xF0⟩
  else if b = 0xF4 then some ⟨3, 0x80, 0x8F, 4⟩
  else none

/-- Takes the owed continuation octets off the front. The first one lies between the given bounds, the
others between 80 and BF; the first octet that does not fit stays, and no value comes out. -/
def continuation : Nat → UInt8 → UInt8 → Nat → Bytes → Option Nat × Bytes
  | 0, _, _, bits, rest => (some bits, rest)
  | _ + 1, _, _, _, [] => (none, [])
  | owed + 1, least, greatest, bits, b :: rest =>
    if least ≤ b ∧ b ≤ greatest then
      continuation owed 0x80 0xBF (bits * 64 + (b.toNat - 0x80)) rest
    else (none, b :: rest)

/-- One unit: the character that begins with the octet `b`, or nothing for a maximal invalid prefix,
and the octets after it. -/
def next (b : UInt8) (rest : Bytes) : Option Char × Bytes :=
  if b < 0x80 then (some (Char.ofNat b.toNat), rest)
  else match lead? b with
    | none => (none, rest)
    | some l =>
      let (value, rest') := continuation l.owed l.least l.greatest l.bits rest
      (value.map Char.ofNat, rest')

theorem length_continuation_le (owed : Nat) (least greatest : UInt8) (bits : Nat) (s : Bytes) :
    (continuation owed least greatest bits s).2.length ≤ s.length := by
  induction owed generalizing least greatest bits s with
  | zero => simp [continuation]
  | succ owed ih =>
    cases s with
    | nil => simp [continuation]
    | cons b rest =>
      simp only [continuation]
      split
      · exact Nat.le_succ_of_le (ih ..)
      · exact Nat.le_refl _

theorem length_next_le (b : UInt8) (rest : Bytes) : (next b rest).2.length ≤ rest.length := by
  simp only [next]
  split
  · exact Nat.le_refl _
  · split
    · exact Nat.le_refl _
    · exact length_continuation_le ..

/-- The units of the octets, put in front of which stand the units of `acc`, last one first. -/
def unitsOnto (acc : List (Option Char)) : Bytes → List (Option Char)
  | [] => acc.reverse
  | b :: rest => unitsOnto ((next b rest).1 :: acc) (next b rest).2
termination_by s => s.length
decreasing_by exact Nat.lt_succ_of_le (length_next_le b rest)

/-- Octets cut into characters and maximal invalid prefixes, each of which shows as `none`. -/
def units (s : Bytes) : List (Option Char) :=
  unitsOnto [] s

/-- The character that stands for octets that are no text. -/
def replacement : Char := '�'

/-- The text of the octets, with one U+FFFD for each maximal invalid prefix. -/
def decodeLossy (s : Bytes) : String :=
  String.ofList ((units s).map (Option.getD · replacement))

/-- The text of octets that are UTF-8 throughout. -/
def decode? (s : Bytes) : Option String :=
  let us := units s
  if us.all Option.isSome then some (String.ofList (us.filterMap id)) else none

end Utf8

end Conductor
