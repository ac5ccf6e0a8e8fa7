import Conductor.Proofs.Lifetime
import Conductor.Proofs.LossyText

/-!
# What is captured of a program

Both streams of a program go to one place, and the octets that arrive there are read once, when the program
has ended. What is captured is therefore a matter of the octets in the order in which they were written.
Which stream a write went to, where one write ends and the next one begins, and how the program ended
are not part of it: `verdict_eq` says which result carries the text, and `text?_result` that the text is
the same in all of them. Nothing is captured if the process cannot wait for the program or read its output,
and such runs are not spoken of here.
-/

namespace Conductor

variable {τ τ' : Type}

namespace Toolchain

/-- A run of the toolchain in which its program is found and its output is captured. -/
structure Run (τ : Type) where
  program : String
  args : List Bytes
  vars : List (String × String)
  world : World τ
  tool : τ
  found : resolve world program args vars = .ok tool
  learned : (world.behave tool (launchFrom world program args vars) world.files).unlearned? = none

/-- The captured text that a result carries, be it a success or a failure. -/
def text? : Except Failure Outcome → Option String
  | .ok outcome => some outcome.output
  | .error failure => failure.output?

/-- A program is found only if there is a pipe for its output. -/
theorem canOpen_of_resolve {w : World τ} {program : String} {args : List Bytes}
    {vars : List (String × String)} {p : τ} (h : resolve w program args vars = .ok p) :
    w.canOpen 3 = true := by
  unfold resolve at h
  split at h
  · cases h
  split at h
  · cases h
  · next hopen =>
    unfold World.canOpen at hopen ⊢
    cases hl : w.openLimit with
    | none => rfl
    | some limit =>
      simp only [hl, Bool.not_eq_true, Bool.not_eq_false', decide_eq_true_eq] at hopen ⊢
      omega

/-- How the ending of a program decides about the result. The text is the same in each case. -/
theorem verdict_eq (program : String) {conduct : Conduct τ} (h : conduct.unlearned? = none) :
    verdict program conduct =
      match conduct.ending with
      | .exited code =>
        if code = 0 then .ok ⟨Utf8.decodeLossy conduct.output, 0⟩
        else .error (.toolchain program (some code) (Utf8.decodeLossy conduct.output))
      | .signalled _ => .error (.toolchain program none (Utf8.decodeLossy conduct.output)) := by
  simp only [verdict, h]
  cases conduct.ending with
  | exited code => simp [Ending.code?]
  | signalled signal => simp [Ending.code?]

namespace Run

/-- What the program does in a run. -/
def conduct (r : Run τ) : Conduct τ :=
  r.world.behave r.tool (launchFrom r.world r.program r.args r.vars) r.world.files

theorem unlearned?_conduct (r : Run τ) : r.conduct.unlearned? = none := r.learned

def result (r : Run τ) : Except Failure Outcome :=
  (invoke r.program r.args r.vars r.world).1

theorem result_eq (r : Run τ) : r.result = verdict r.program r.conduct := by
  rw [result, invoke_of_resolve_ok (canOpen_of_resolve r.found) r.found rfl]
  rfl

theorem text?_result (r : Run τ) : text? r.result = some (Utf8.decodeLossy r.conduct.output) := by
  simp only [result_eq, verdict, unlearned?_conduct]
  split
  · rfl
  · rfl

end Run

end Toolchain

open Toolchain (Run text?)

/-- **Captured output is faithful to the octets written.** Of all runs in which the output of a program is
captured, whatever it writes to its two streams and however it ends:

* the text stands in the outcome of a program that exits with zero, and in the failure of one that exits
  with another code or dies from a signal;
* two runs that write the same octets, wherever they cut them and whichever streams they use, have the
  same text captured;
* text is captured as it is, and text in front of other octets is captured as it is in front of what is
  captured of those;
* a maximal invalid prefix is captured as one U+FFFD, and where no character stands there is one. -/
theorem captured_output_faithful (r : Run τ) (r' : Run τ') :
    let octets := r.conduct.writes.flatMap Prod.snd
    let text := Utf8.decodeLossy octets
    (r.conduct.ending = .exited 0 → r.result = .ok ⟨text, 0⟩) ∧
    (∀ code, code ≠ 0 → r.conduct.ending = .exited code →
      r.result = .error (.toolchain r.program (some code) text)) ∧
    (∀ signal, r.conduct.ending = .signalled signal →
      r.result = .error (.toolchain r.program none text)) ∧
    (r'.conduct.writes.flatMap Prod.snd = octets → text? r'.result = text? r.result) ∧
    (∀ s, Utf8.decodeLossy (Utf8.encode s) = s) ∧
    (∀ s rest, Utf8.decodeLossy (Utf8.encode s ++ rest) = s ++ Utf8.decodeLossy rest) ∧
    (∀ m rest, Utf8.Invalid m rest →
      Utf8.decodeLossy (m ++ rest) = "\uFFFD" ++ Utf8.decodeLossy rest) ∧
    (∀ s : Bytes, s ≠ [] → (∃ c rest, s = String.utf8EncodeChar c ++ rest) ∨
      ∃ m rest, s = m ++ rest ∧ Utf8.Invalid m rest) := by
  intro octets text
  have hresult : r.result = Toolchain.verdict r.program r.conduct := r.result_eq
  rw [Toolchain.verdict_eq r.program r.unlearned?_conduct] at hresult
  refine ⟨?_, ?_, ?_, ?_, Utf8.decodeLossy_encode, Utf8.decodeLossy_encode_append, ?_, ?_⟩
  · intro hzero
    rw [hresult, hzero]
    rfl
  · intro code hcode hexit
    rw [hresult, hexit]
    exact if_neg hcode
  · intro signal hsignal
    rw [hresult, hsignal]
    rfl
  · intro hsame
    rw [r.text?_result, r'.text?_result, Conduct.output, hsame]
    rfl
  · intro m rest hinvalid
    rw [Utf8.decodeLossy_invalid hinvalid]
    rfl
  · intro s hs
    exact Utf8.char_or_invalid hs

namespace Sample

/-- The question for the version, to a program that writes that and ends so. -/
def ask (writes : List (Stream × Bytes)) (ending : Ending) : Run Unit where
  program := "go"
  args := [Utf8.encode "version"]
  vars := []
  world := { world with behave := fun _ _ files => ⟨writes, ending, files, none, none⟩ }
  tool := ()
  found := rfl
  learned := rfl

/-- A program that writes an `é` that is cut in the middle, one half to each stream, and then the beginning
of a longer character. -/
def writesInHalves : Run Unit :=
  ask [(.output, [0x68, 0xC3]), (.error, [0xA9]), (.output, [0xF0, 0x9F])] (.exited 0)

/-- A program that writes the same octets at once, and dies. -/
def writesAtOnce : Run Unit :=
  ask [(.error, [0x68, 0xC3, 0xA9, 0xF0, 0x9F])] (.signalled 9)

/-- The first two octets of a longer character, with nothing after them, are invalid as a whole. -/
theorem invalid_halfway : Utf8.Invalid [0xF0, 0x9F] [] := by
  have hnext : Utf8.next 0xF0 [0x9F] = (none, []) := by decide
  have hnone : ∀ c, ¬ String.utf8EncodeChar c <+: [0xF0, 0x9F] := by
    rintro c ⟨rest, hrest⟩
    obtain ⟨b, tail, hc, hchar⟩ := Utf8.next_encodeChar c rest
    rw [hc, List.cons_append, List.cons.injEq] at hrest
    rw [hrest.1, hrest.2, hnext] at hchar
    cases hchar
  obtain ⟨-, m, hm, hinvalid⟩ := Utf8.next_invalid hnone
  rw [hnext, List.append_nil] at hm
  rw [hnext] at hinvalid
  exact hm ▸ hinvalid

end Sample

/-- The same text is captured of a program that succeeds and of one that dies, an `é` in it that was
written in two halves, and one U+FFFD for the two octets at the end. -/
theorem sample_captured_output_faithful :
    Sample.writesInHalves.conduct.ending = .exited 0 ∧
    Sample.writesInHalves.result = .ok ⟨"hé\uFFFD", 0⟩ ∧
    Sample.writesAtOnce.conduct.ending = .signalled 9 ∧
    Sample.writesAtOnce.result = .error (.toolchain "go" none "hé\uFFFD") ∧
    text? Sample.writesAtOnce.result = text? Sample.writesInHalves.result ∧
    Utf8.Invalid [0xF0, 0x9F] [] ∧ Utf8.decodeLossy [0xF0, 0x9F] = "\uFFFD" := by
  obtain ⟨hzero, -, -, hsame, -, hfront, hinvalid, -⟩ :=
    captured_output_faithful Sample.writesInHalves Sample.writesAtOnce
  obtain ⟨-, -, hsignal, -⟩ :=
    captured_output_faithful Sample.writesAtOnce Sample.writesInHalves
  have hbad : Utf8.decodeLossy [0xF0, 0x9F] = "\uFFFD" := by
    have h := hinvalid [0xF0, 0x9F] [] Sample.invalid_halfway
    rwa [Utf8.decodeLossy_nil, String.append_empty, List.append_nil] at h
  have htext : Utf8.decodeLossy [0x68, 0xC3, 0xA9, 0xF0, 0x9F] = "hé\uFFFD" := by
    have h := hfront "hé" [0xF0, 0x9F]
    rwa [hbad] at h
  refine ⟨rfl, ?_, rfl, ?_, hsame rfl, Sample.invalid_halfway, hbad⟩
  · rw [← htext]
    exact hzero rfl
  · rw [← htext]
    exact hsignal 9 rfl

end Conductor
