import Conductor.Decimal.Digits
import Conductor.Proofs.Lookup
import Conductor.Scratch

/-!
# Names of scratch files

A name is three numbers between hyphens, and digits are no hyphens, so the numbers can be read off the
name again (`name_inj`). That is all there is to the uniqueness of names: two processes differ in the
first number, two draws of one process in the last.

A name holds no slash and is not one of the two names with a meaning of their own, so a path to it ends at
a place of that very name (`locate_join`). Different names are therefore at different places, whatever the
directories are (`name_eq_of_locate_eq`).
-/

namespace Conductor

/-! ## Octets of a text -/

namespace Utf8

theorem encode_append (s t : String) : encode (s ++ t) = encode s ++ encode t := by
  simp [encode]

/-- Different texts have different octets. -/
theorem encode_injective : Function.Injective encode := by
  intro s t h
  have hs : ∀ u : String, u.toByteArray = (encode u).toByteArray := by
    intro u
    have hu : u.toByteArray = (String.ofList u.toList).toByteArray := by rw [String.ofList_toList]
    rw [hu, String.toByteArray_ofList, encode, List.utf8Encode]
  rw [← String.toByteArray_inj, hs s, hs t, h]

/-- The digits of a number are octets of digits. -/
theorem digit_of_mem_encode_repr {n : Nat} {b : UInt8} (h : b ∈ encode n.repr) :
    48 ≤ b.toNat ∧ b.toNat ≤ 57 := by
  unfold encode at h
  obtain ⟨c, hc, hb⟩ := List.mem_flatMap.1 h
  rw [Nat.toList_repr] at hc
  have hdigit := Nat.isDigit_of_mem_toDigits (by decide) (by decide) hc
  have hrange : 48 ≤ c.val.toNat ∧ c.val.toNat ≤ 57 := by
    simpa [Char.isDigit, UInt32.le_iff_toNat_le] using hdigit
  -- A digit is below 128, so it is one octet.
  have hchar : String.utf8EncodeChar c = [UInt8.ofNat c.val.toNat] := by
    unfold String.utf8EncodeChar
    rw [if_pos (by omega)]
  rw [hchar, List.mem_singleton] at hb
  have hsmall : c.val.toNat < UInt8.size := Nat.lt_of_le_of_lt hrange.2 (by decide)
  rw [hb, UInt8.toNat_ofNat_of_lt' hsmall]
  exact hrange

/-- The octets of a numeral tell the number. -/
theorem encode_repr_injective {m n : Nat} (h : encode m.repr = encode n.repr) : m = n := by
  have hdigits : Nat.toDigits 10 m = Nat.toDigits 10 n := by
    rw [← Nat.toList_repr, ← Nat.toList_repr, encode_injective h]
  exact Digits.ofNat_injective hdigits

end Utf8

/-! ## Reading the numbers off a name -/

namespace Scratch

/-- The hyphen that stands between the numbers. -/
def hyphen : UInt8 := 45

theorem hyphen_not_mem_encode_repr (n : Nat) : hyphen ∉ Utf8.encode n.repr := by
  intro h
  have := (Utf8.digit_of_mem_encode_repr h).1
  simp [hyphen] at this

theorem encode_name (pid nanos : Nat) (counter : UInt64) :
    Utf8.encode (name pid nanos counter) =
      [109, 97, 105, 110, 45] ++ (Utf8.encode pid.repr ++ hyphen :: (Utf8.encode nanos.repr ++
        hyphen :: (Utf8.encode counter.toNat.repr ++ [46, 103, 111]))) := by
  have hmain : Utf8.encode "main-" = [109, 97, 105, 110, 45] := by decide
  have hhyphen : Utf8.encode "-" = [hyphen] := by decide
  have hgo : Utf8.encode ".go" = [46, 103, 111] := by decide
  simp only [name, Utf8.encode_append, hmain, hhyphen, hgo, List.append_assoc, List.cons_append,
    List.nil_append]

/-- A name tells the process, the time and the counter that it was made of. -/
theorem name_inj {pid pid' nanos nanos' : Nat} {counter counter' : UInt64} :
    name pid nanos counter = name pid' nanos' counter' ↔
      pid = pid' ∧ nanos = nanos' ∧ counter = counter' := by
  constructor
  · intro h
    have hoctets := congrArg Utf8.encode h
    rw [encode_name, encode_name] at hoctets
    -- The hyphens end the numbers one after the other, and the fixed ends cancel.
    obtain ⟨hpid, hrest⟩ := append_sep_inj (hyphen_not_mem_encode_repr pid)
      (hyphen_not_mem_encode_repr pid') (List.append_cancel_left hoctets)
    obtain ⟨hnanos, hlast⟩ := append_sep_inj (hyphen_not_mem_encode_repr nanos)
      (hyphen_not_mem_encode_repr nanos') hrest
    have hcounter := List.append_cancel_right hlast
    exact ⟨Utf8.encode_repr_injective hpid, Utf8.encode_repr_injective hnanos,
      UInt64.toNat_inj.1 (Utf8.encode_repr_injective hcounter)⟩
  · rintro ⟨rfl, rfl, rfl⟩
    rfl

/-- A name is made of digits and of the octets around the numbers. -/
theorem not_mem_encode_name {b : UInt8} (hdigit : b.toNat < 48 ∨ 57 < b.toNat)
    (hfixed : b ∉ ([109, 97, 105, 110, 45, 46, 103, 111] : Bytes)) (pid nanos : Nat)
    (counter : UInt64) : b ∉ Utf8.encode (name pid nanos counter) := by
  have hdigits : ∀ n : Nat, b ∉ Utf8.encode n.repr := by
    intro n h
    have := Utf8.digit_of_mem_encode_repr h
    omega
  simp only [List.mem_cons, List.not_mem_nil, or_false, not_or] at hfixed
  simp [encode_name, hyphen, hdigits, hfixed]

theorem slash_not_mem_encode_name (pid nanos : Nat) (counter : UInt64) :
    Path.slash ∉ Utf8.encode (name pid nanos counter) :=
  not_mem_encode_name (by decide) (by decide) pid nanos counter

theorem nul_not_mem_encode_name (pid nanos : Nat) (counter : UInt64) :
    0 ∉ Utf8.encode (name pid nanos counter) :=
  not_mem_encode_name (by decide) (by decide) pid nanos counter

/-- The octet that a name begins with is no dot. -/
theorem encode_name_eq_cons (pid nanos : Nat) (counter : UInt64) :
    ∃ rest, Utf8.encode (name pid nanos counter) = 109 :: rest := by
  rw [encode_name]
  exact ⟨_, rfl⟩

end Scratch

/-! ## Where a name is in a path -/

namespace Path

/-- A plain name: one that is not empty, not divided, and has no meaning of its own. -/
structure IsPlain (name : Bytes) : Prop where
  ne_nil : name ≠ []
  undivided : slash ∉ name
  ne_here : name ≠ here
  ne_parent : name ≠ parent

/-- The names on the way to a directory. -/
def dirNames (dir : Path) : List Bytes :=
  (pieces slash dir).filter (· ≠ [])

theorem names_append_slash {name : Bytes} (h : IsPlain name) (dir : Path) :
    names (dir ++ slash :: name) = dirNames dir ++ [name] := by
  have hpieces : pieces slash (dir ++ slash :: name) = pieces slash dir ++ [name] := by
    rw [pieces_append_sep, pieces_of_not_mem h.undivided]
  simp [names, dirNames, hpieces, List.filter_append, h.ne_nil]

/-- The names on the way to a file in a directory: those of the directory, and then its own. -/
theorem names_join {name : String} (h : IsPlain (Utf8.encode name)) (dir : Path) :
    names (join dir name) = dirNames dir ++ [Utf8.encode name] := by
  by_cases hnil : dir = []
  · simp [join, hnil, names, dirNames, pieces, pieces_of_not_mem h.undivided, h.ne_nil]
  · by_cases hslash : dir.getLast? = some slash
    · obtain ⟨front, rfl⟩ := List.getLast?_eq_some_iff.1 hslash
      -- A slash at the end makes one more piece, an empty one, which does not count.
      have hfront : dirNames (front ++ [slash]) = dirNames front := by
        simp [dirNames, pieces_append_sep, pieces]
      rw [join, if_neg hnil, if_pos hslash, hfront, List.append_assoc]
      exact names_append_slash h front
    · rw [join, if_neg hnil, if_neg hslash]
      exact names_append_slash h dir

/-- The length of the path of a name in a directory. -/
def joinedLength (dir : Path) (n : Nat) : Nat :=
  if dir = [] then n
  else if dir.getLast? = some slash then dir.length + n
  else dir.length + (n + 1)

theorem length_join (dir : Path) (name : String) :
    (join dir name).length = joinedLength dir (Utf8.encode name).length := by
  unfold join joinedLength
  split
  · rfl
  · split
    · rw [List.length_append]
    · rw [List.length_append, List.length_cons]

theorem mem_join {b : UInt8} (hb : b ≠ slash) {name : String} (hname : b ∉ Utf8.encode name)
    (dir : Path) : b ∈ join dir name ↔ b ∈ dir := by
  unfold join
  split
  · next h => simp [h, hname]
  · split
    · simp [hname]
    · simp [hb, hname]

theorem join_ne_nil {name : String} (h : IsPlain (Utf8.encode name)) (dir : Path) :
    join dir name ≠ [] := by
  unfold join
  split
  · exact h.ne_nil
  · split
    · simp [h.ne_nil]
    · simp

/-- Whether a path starts at the root is a matter of its directory. -/
theorem isAbsolute_join {name : String} (h : IsPlain (Utf8.encode name)) (dir : Path) :
    (join dir name).isAbsolute = dir.isAbsolute := by
  unfold isAbsolute join
  split
  · next hnil =>
    -- A bare name does not begin with a slash.
    have hhead : (Utf8.encode name).head? ≠ some slash := fun hs =>
      h.undivided (List.mem_of_head? hs)
    simp [hnil, hhead]
  · next hnil =>
    obtain ⟨b, rest, rfl⟩ := List.exists_cons_of_ne_nil hnil
    split
    · rfl
    · rfl

end Path

namespace Scratch

theorem isPlain_encode_name (pid nanos : Nat) (counter : UInt64) :
    Path.IsPlain (Utf8.encode (name pid nanos counter)) := by
  obtain ⟨rest, hrest⟩ := encode_name_eq_cons pid nanos counter
  refine ⟨?_, slash_not_mem_encode_name pid nanos counter, ?_, ?_⟩
  all_goals simp [hrest, Path.here, Path.parent]

end Scratch

namespace FileTree

variable {τ : Type}

/-- The place of a directory in which a file is looked up. -/
def host (t : FileTree τ) (cwd : Option Place) (dir : Path) : Except SystemError Place := do
  let begin ← start cwd dir
  (Path.dirNames dir ++ [Path.here]).foldlM t.step begin

/-- The place of a plain name in a directory. -/
def spot (name : Bytes) (place : Place) : Except SystemError Place :=
  if Path.nameLimit < name.length then .error .nameTooLong else .ok (place ++ [name])

/-- A plain name leads on from a directory, unless it is too long. -/
theorem step_of_isPlain {name : Bytes} (h : Path.IsPlain name) (t : FileTree τ) (place : Place) :
    t.step place name = (t.step place Path.here).bind (spot name) := by
  unfold step spot
  cases t.node? place with
  | none => rfl
  | some node =>
    cases node with
    | file content use => rfl
    | directory => simp [h.ne_here, h.ne_parent, Except.bind]

/-- A file is looked up in its directory, and its own name does nothing but make the last step. -/
theorem locate_join_eq {name : String} (hplain : Path.IsPlain (Utf8.encode name)) {dir : Path}
    (hcheck : Path.check (Path.join dir name) = .ok ()) (t : FileTree τ) (cwd : Option Place) :
    t.locate cwd (Path.join dir name) = (t.host cwd dir).bind (spot (Utf8.encode name)) := by
  have hstart : start cwd (Path.join dir name) = start cwd dir := by
    unfold start
    rw [Path.isAbsolute_join hplain]
  rw [locate, hcheck, hstart, Path.names_join hplain, host]
  cases start cwd dir with
  | error e => rfl
  | ok begin =>
    simp only [bind, Except.bind, List.foldlM_append, List.foldlM_cons, List.foldlM_nil]
    cases (Path.dirNames dir).foldlM t.step begin with
    | error e => rfl
    | ok mid =>
      simp only [step_of_isPlain hplain]
      cases t.step mid Path.here with
      | error e => rfl
      | ok place =>
        simp only [Except.bind, pure, Except.pure]
        cases spot (Utf8.encode name) place with
        | error e => rfl
        | ok there => rfl

theorem host_eq_ok {t : FileTree τ} {cwd : Option Place} {dir : Path} {place : Place} :
    t.host cwd dir = .ok place ↔
      ∃ begin, start cwd dir = .ok begin ∧
        (Path.dirNames dir ++ [Path.here]).foldlM t.step begin = .ok place := by
  unfold host
  cases start cwd dir with
  | error e => simp [bind, Except.bind]
  | ok begin => simp [bind, Except.bind]

/-- The host is a directory: a last step that stays where it is makes sure of that. -/
theorem node?_host {t : FileTree τ} {cwd : Option Place} {dir : Path} {place : Place}
    (h : t.host cwd dir = .ok place) : t.node? place = some .directory := by
  obtain ⟨begin, -, hwalk⟩ := host_eq_ok.1 h
  rw [List.foldlM_append] at hwalk
  cases hmid : (Path.dirNames dir).foldlM t.step begin with
  | error e =>
    rw [hmid] at hwalk
    cases hwalk
  | ok mid =>
    rw [hmid] at hwalk
    obtain ⟨there, hstep, hend⟩ := foldlM_step_cons.1 hwalk
    obtain rfl : there = place := Except.ok.inj hend
    obtain ⟨hdir, -, rfl⟩ := step_eq_ok.1 hstep
    exact hdir

/-- A directory is a host as long as no directory is lost. -/
theorem host_mono {t u : FileTree τ}
    (h : ∀ place, t.node? place = some .directory → u.node? place = some .directory)
    {cwd : Option Place} {dir : Path} {place : Place} (hl : t.host cwd dir = .ok place) :
    u.host cwd dir = .ok place := by
  obtain ⟨begin, hstart, hwalk⟩ := host_eq_ok.1 hl
  exact host_eq_ok.2 ⟨begin, hstart, foldlM_step_mono h hwalk⟩

theorem Same.host {t u : FileTree τ} (h : Same t u) (cwd : Option Place) (dir : Path) :
    t.host cwd dir = u.host cwd dir := by
  unfold FileTree.host
  congr 1
  funext begin
  exact foldlM_step_congr fun place _ => h.node place

/-- The path of a plain name leads to a place of that name, right in the directory. -/
theorem locate_join {t : FileTree τ} {cwd : Option Place} {dir : Path} {name : String} {place : Place}
    (hplain : Path.IsPlain (Utf8.encode name)) (h : t.locate cwd (Path.join dir name) = .ok place) :
    ∃ mid, t.host cwd dir = .ok mid ∧ place = mid ++ [Utf8.encode name] := by
  rw [locate_join_eq hplain (locate_eq_ok.1 h).1] at h
  cases hhost : t.host cwd dir with
  | error e => simp [hhost, Except.bind] at h
  | ok mid =>
    simp only [hhost, Except.bind, spot] at h
    split at h
    · cases h
    · exact ⟨mid, rfl, (Except.ok.inj h).symm⟩

/-- Where the path of a plain name leads depends on the directory alone. -/
theorem locate_join_congr {t u : FileTree τ} {cwd : Option Place} {dir : Path} {name : String}
    (hplain : Path.IsPlain (Utf8.encode name)) (h : t.host cwd dir = u.host cwd dir) :
    t.locate cwd (Path.join dir name) = u.locate cwd (Path.join dir name) := by
  cases hcheck : Path.check (Path.join dir name) with
  | error e =>
    unfold locate
    rw [hcheck]
    rfl
  | ok _ => rw [locate_join_eq hplain hcheck, locate_join_eq hplain hcheck, h]

/-- Different names are at different places, whatever the directories are. -/
theorem name_eq_of_locate_eq {t u : FileTree τ} {cwd cwd' : Option Place} {dir dir' : Path}
    {name name' : String} {place : Place} (hplain : Path.IsPlain (Utf8.encode name))
    (hplain' : Path.IsPlain (Utf8.encode name')) (h : t.locate cwd (Path.join dir name) = .ok place)
    (h' : u.locate cwd' (Path.join dir' name') = .ok place) : name = name' := by
  obtain ⟨mid, -, hmid⟩ := locate_join hplain h
  obtain ⟨mid', -, hmid'⟩ := locate_join hplain' h'
  have hlast := congrArg List.getLast? (hmid.symm.trans hmid')
  rw [List.getLast?_concat, List.getLast?_concat] at hlast
  exact Utf8.encode_injective (Option.some.inj hlast)

end FileTree

end Conductor
