import Conductor.Diagnostic.Decode
import Conductor.Proofs.JsonText

/-!
# Diagnostics read back

A diagnostic is determined by its JSON text. The text is that of an exact value, so the reader gives the
value back (`read?_toJsonText`); and the decoder undoes the encoding layer by layer, from strings and
numbers of 64 bits over spans up to the whole (`ofJson_toJson`). Nothing, `null` and the empty text stay
apart on the way, and so do an absent list and an empty one.

Texts that say a diagnostic in another way (other blanks, other members, an array in place of the object)
are decoded too, but they are not what is written. `diagnostic_json_round_trip` says which texts are: those
that do not change when they are decoded and written again.
-/

namespace Conductor

namespace Json

/-! ## The layers -/

theorem decodeOption_optStr (o : Option String) : decodeOption decodeString (optStr o) = .ok o := by
  cases o with
  | none => rfl
  | some s => rfl

/-- The items of an array are decoded one by one. -/
theorem decodeItems_map {α : Type} {decode : Decoder α} {encode : α → Json}
    (h : ∀ a, decode (encode a) = .ok a) (xs : List α) :
    decodeItems decode (xs.map encode) = .ok xs := by
  induction xs with
  | nil => rfl
  | cons x xs ih =>
    rw [List.map_cons, decodeItems, h, ih]
    rfl

/-- Every number of 64 bits is kept, also those beyond the signed ones. -/
theorem decodeUnsigned_toNat (n : UInt64) : decodeUnsigned (.int n.toNat) = .ok n := by
  have hlt : (n.toNat : Int) < UInt64.size := by
    exact_mod_cast n.toNat_lt_size
  have hnonneg : ¬ (n.toNat : Int) < 0 := by omega
  rw [decodeUnsigned, if_neg hnonneg, if_pos hlt, Int.toNat_natCast, UInt64.ofNat_toNat]

/-- A member that is there is decoded as its value is. -/
theorem decodeMember_eq_ok {α : Type} {members : List (String × Json)} {name : String}
    {decode : Decoder α} {v : Json} {a : α} (hmember : member? members name = some v)
    (hvalue : decode v = .ok a) : decodeMember members name decode = .ok (some a) := by
  rw [decodeMember, hmember]
  show (decode v).map some = .ok (some a)
  rw [hvalue]
  rfl

theorem exact_unsigned (n : UInt64) : Exact (.int n.toNat) := by
  apply Exact.int
  · have hleast : Int64.minValue.toInt ≤ 0 := by decide
    omega
  · exact_mod_cast n.toNat_lt_size

theorem exact_optStr (o : Option String) : Exact (optStr o) := by
  cases o with
  | none => exact .null
  | some s => exact .str s

end Json

/-! ## Severities and spans -/

theorem Severity.ofJson_toJson (s : Severity) : ofJson s.toJson = .ok s := by
  cases s <;> rfl

namespace Span

theorem ofJson_toJson (s : Span) : ofJson s.toJson = .ok s := by
  have hmember : ∀ name n, Json.member? [("start_line", .int s.startLine.toNat),
      ("start_col", .int s.startCol.toNat), ("end_line", .int s.endLine.toNat),
      ("end_col", .int s.endCol.toNat)] name = some (.int (UInt64.toNat n)) →
      Json.decodeMember _ name Json.decodeUnsigned = .ok (some n) :=
    fun _ n h => Json.decodeMember_eq_ok h (Json.decodeUnsigned_toNat n)
  show ofMembers _ = _
  rw [ofMembers, hmember "end_col" s.endCol rfl, hmember "end_line" s.endLine rfl,
    hmember "start_col" s.startCol rfl, hmember "start_line" s.startLine rfl]
  rfl

theorem exact_toJson (s : Span) : s.toJson.Exact := by
  rw [toJson, Json.exact_obj]
  simp [Json.exact_unsigned]

theorem decodeOption_toJson (o : Option Span) :
    Json.decodeOption ofJson (match o with
      | none => .null
      | some s => s.toJson) = .ok o := by
  cases o with
  | none => rfl
  | some s =>
    show (ofJson s.toJson).map some = .ok (some s)
    rw [ofJson_toJson]
    rfl

end Span

/-! ## Diagnostics -/

namespace Diagnostic

/-- What is written for a diagnostic is decoded as that diagnostic. -/
theorem ofJson_toJson (d : Diagnostic) : ofJson d.toJson = .ok d := by
  have hstring : ∀ s, Json.decodeString (.str s) = .ok s := fun _ => rfl
  have hnotes : Json.decodeList Json.decodeString (.arr (d.notes.map .str)) = .ok d.notes :=
    Json.decodeItems_map hstring d.notes
  show ofMembers _ = _
  rw [ofMembers, Json.decodeMember_eq_ok rfl (Json.decodeOption_optStr d.help),
    Json.decodeMember_eq_ok rfl (hstring d.message), Json.decodeMember_eq_ok rfl hnotes,
    Json.decodeMember_eq_ok rfl (Json.decodeOption_optStr d.path),
    Json.decodeMember_eq_ok rfl d.severity.ofJson_toJson,
    Json.decodeMember_eq_ok rfl (Span.decodeOption_toJson d.span)]
  rfl

theorem exact_toJson (d : Diagnostic) : d.toJson.Exact := by
  rw [toJson, Json.exact_obj]
  intro m hm
  simp only [List.mem_cons, List.not_mem_nil, or_false] at hm
  rcases hm with rfl | rfl | rfl | rfl | rfl | rfl
  · exact .str d.severity.name
  · exact .str d.message
  · exact Json.exact_optStr d.help
  · cases hspan : d.span with
    | none => exact .null
    | some s => exact s.exact_toJson
  · exact Json.exact_optStr d.path
  · apply Json.Exact.arr
    intro x hx
    obtain ⟨note, -, rfl⟩ := List.mem_map.1 hx
    exact .str note

/-- The value of a diagnostic is read from its text. -/
theorem read?_toJsonText (d : Diagnostic) : Json.read? d.toJsonText = some d.toJson := by
  have hstops : Json.Stops [] := by simp [Json.Stops]
  have hread := d.exact_toJson.read?_write hstops rfl
  rwa [List.append_nil] at hread

/-! ## Decoding and writing again -/

/-- The diagnostic that a text says, if it says one. -/
def ofJsonText? (s : String) : Option Diagnostic :=
  (Json.read? s).bind fun v => (ofJson v).toOption

/-- A value that is decoded and encoded again. -/
def recode (v : Json) : Except Mismatch Json :=
  (ofJson v).map toJson

/-- A text that is decoded and encoded again. -/
def recodeText? (s : String) : Option String :=
  (ofJsonText? s).map toJsonText

theorem ofJsonText?_toJsonText (d : Diagnostic) : ofJsonText? d.toJsonText = some d := by
  rw [ofJsonText?, read?_toJsonText]
  show (ofJson d.toJson).toOption = some d
  rw [ofJson_toJson]
  rfl

theorem toJsonText_injective : Function.Injective toJsonText := by
  intro d d' h
  have hd := d.ofJsonText?_toJsonText
  rw [h, ofJsonText?_toJsonText] at hd
  exact (Option.some.inj hd).symm

/-- What has been decoded and encoded once stays as it is. -/
theorem recode_of_recode {v v' : Json} (h : recode v = .ok v') : recode v' = .ok v' := by
  unfold recode at h
  cases hd : ofJson v with
  | error m =>
    rw [hd] at h
    cases h
  | ok d =>
    rw [hd] at h
    cases h
    rw [recode, ofJson_toJson]
    rfl

/-- The texts that are written are those that do not change when they are decoded and written again. -/
theorem recodeText?_eq_self_iff (s : String) : recodeText? s = some s ↔ ∃ d : Diagnostic, s = d.toJsonText := by
  constructor
  · intro h
    obtain ⟨d, -, hd⟩ := Option.map_eq_some_iff.1 h
    exact ⟨d, hd.symm⟩
  · rintro ⟨d, rfl⟩
    rw [recodeText?, ofJsonText?_toJsonText]
    rfl

end Diagnostic

/-- **Diagnostics are read back from their JSON text.** For every diagnostic, the text that is written for
it is read as the value that it was written from, and that value is decoded as the diagnostic itself. Hence
no two diagnostics have one text; whatever value is decoded, what is encoded for it does not change by
decoding and encoding; and the texts that do not change in this way are exactly those that are written
for diagnostics. -/
theorem diagnostic_json_round_trip :
    (∀ d : Diagnostic, ∃ v, Json.read? d.toJsonText = some v ∧ Diagnostic.ofJson v = .ok d) ∧
    Function.Injective Diagnostic.toJsonText ∧
    (∀ v v', Diagnostic.recode v = .ok v' → Diagnostic.recode v' = .ok v') ∧
    (∀ s, Diagnostic.recodeText? s = some s ↔ ∃ d : Diagnostic, s = d.toJsonText) := by
  refine ⟨?_, Diagnostic.toJsonText_injective, ?_, Diagnostic.recodeText?_eq_self_iff⟩
  · intro d
    exact ⟨d.toJson, d.read?_toJsonText, d.ofJson_toJson⟩
  · intro v v' h
    exact Diagnostic.recode_of_recode h

end Conductor
