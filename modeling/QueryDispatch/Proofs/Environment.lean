import QueryDispatch.Environment
import QueryDispatch.Proofs.Text

/-!
# What an environment configures

Reading an environment never fails: a value that cannot be used leaves the default, and nothing is
said of it. So the only account of what was read is what the settings are, and it has to say of each
value whether it counts.

The account here goes by what a variable holds (`Environment.Holds`): some text, or none if it is
not set or its bytes are no text. For each setting it says what the text has to be like.

## Main results

* `Settings.violation?_eq_some_iff`: the condition that is named is the first one violated.
* `Settings.environment_configures_exactly`: each setting is what the text of its own variable says,
  if that is of the required form, and otherwise its default.
-/

namespace QueryDispatch

namespace Environment

/-- The variable is set to this text. -/
def Holds (e : Environment) (name s : String) : Prop := e.values.lookup name = some (Wire.utf8 s)

/-- The variable is set to a numeral of the number, which fits a machine word. -/
def Writes (e : Environment) (name : String) (n : Nat) : Prop :=
  ∃ s, e.Holds name s ∧ Text.Number.Denotes s n ∧ n < 2 ^ 64

/-- The variable is set to what switches something on: a one, or "true" in either case of each of
its letters. -/
def SwitchesOn (e : Environment) (name : String) : Prop :=
  ∃ s, e.Holds name s ∧
    (s = "1" ∨ List.Forall₂ (fun c l ↦ c = l ∨ c = l.toUpper) s.toList ['t', 'r', 'u', 'e'])

variable {e : Environment} {name : String}

/-- A variable reads as a text if and only if it holds it. -/
theorem text?_eq_some_iff {s : String} : e.text? name = some s ↔ e.Holds name s := by
  rw [text?, Option.bind_eq_some_iff, Holds]
  constructor
  · rintro ⟨bytes, hbytes, hs⟩
    rw [hbytes, Wire.ofUtf8?_eq_some_iff.1 hs]
  · intro h
    exact ⟨_, h, Wire.ofUtf8?_utf8 s⟩

/-- A setting is what its variable holds, or the default if that is no text. -/
theorem text?_getD_eq_iff {default s : String} :
    (e.text? name).getD default = s ↔
      e.Holds name s ∨ s = default ∧ ∀ t, ¬ e.Holds name t := by
  simp only [← text?_eq_some_iff]
  rcases e.text? name with - | t
  · simp [eq_comm]
  · simp

/-- A flag is on if it is `1`, or `true` in letters of either case. -/
theorem isOn_iff {s : String} : isOn s = true ↔
    s = "1" ∨ List.Forall₂ (fun c l ↦ c = l ∨ c = l.toUpper) s.toList ['t', 'r', 'u', 'e'] := by
  have hletters : ∀ l ∈ "true".toList, 'a' ≤ l ∧ l ≤ 'z' := by
    intro l hl
    have hl : l ∈ ['t', 'r', 'u', 'e'] := hl
    simp only [List.mem_cons, List.not_mem_nil, or_false] at hl
    rcases hl with rfl | rfl | rfl | rfl <;> decide
  rw [isOn, Bool.or_eq_true, beq_iff_eq, Text.sameIgnoringCase_iff hletters]
  rfl

/-- A flag of the environment is on if and only if its variable switches it on. -/
theorem flag_iff : e.flag name = true ↔ e.SwitchesOn name := by
  rw [flag, Option.any_eq_true, SwitchesOn]
  refine exists_congr fun s ↦ ?_
  rw [text?_eq_some_iff, isOn_iff]

/-- A mark reads as a number if and only if it denotes it. -/
theorem parseMark?_eq_some_iff {s : String} {mark : UInt64} :
    parseMark? s = some mark ↔ Text.Number.Denotes s mark.toNat := by
  rw [parseMark?, Option.map_eq_some_iff]
  constructor
  · rintro ⟨n, hn, rfl⟩
    obtain ⟨hdenotes, hle⟩ := Text.Number.parse?_eq_some_iff.1 hn
    have hlt : n < UInt64.size := Nat.lt_of_le_pred (by decide) hle
    rwa [UInt64.toNat_ofNat_of_lt' hlt]
  · intro hdenotes
    have hle : mark.toNat ≤ UInt64.size - 1 := Nat.le_pred_of_lt mark.toNat_lt
    exact ⟨mark.toNat, Text.Number.parse?_eq_some_iff.2 ⟨hdenotes, hle⟩, UInt64.ofNat_toNat⟩

/-- A variable writes a number if and only if it reads as a mark of that value. -/
theorem writes_iff {n : Nat} :
    e.Writes name n ↔ ∃ mark, e.mark? name = some mark ∧ mark.toNat = n := by
  simp only [mark?, Option.bind_eq_some_iff, text?_eq_some_iff, parseMark?_eq_some_iff]
  constructor
  · rintro ⟨s, hs, hdenotes, hlt⟩
    have hn : (UInt64.ofNat n).toNat = n := UInt64.toNat_ofNat_of_lt' hlt
    exact ⟨.ofNat n, ⟨s, hs, hn.symm ▸ hdenotes⟩, hn⟩
  · rintro ⟨mark, ⟨s, hs, hdenotes⟩, rfl⟩
    exact ⟨s, hs, hdenotes, mark.toNat_lt⟩

/-- A mark is the number that its variable writes, or the default if it writes none. -/
theorem mark?_getD_eq_iff {default : UInt64} {n : Nat} :
    ((e.mark? name).getD default).toNat = n ↔
      e.Writes name n ∨ n = default.toNat ∧ ∀ m, ¬ e.Writes name m := by
  simp only [writes_iff]
  rcases e.mark? name with - | mark
  · simp [eq_comm]
  · simp

end Environment

namespace Settings

/-- The condition is violated, and none before it. -/
inductive FirstViolated (s : Settings) : ConfigError → Prop
  | emptySecure (h : Text.Blank s.secureEndpoint) : FirstViolated s (.emptyEndpoint .secure)
  | emptyPublic (hsecure : ¬ Text.Blank s.secureEndpoint) (h : Text.Blank s.publicEndpoint) :
      FirstViolated s (.emptyEndpoint .unsecured)
  | shared (hsecure : ¬ Text.Blank s.secureEndpoint) (hpublic : ¬ Text.Blank s.publicEndpoint)
      (h : s.secureEndpoint = s.publicEndpoint) : FirstViolated s (.sharedEndpoint s.secureEndpoint)
  | zeroMark (hsecure : ¬ Text.Blank s.secureEndpoint) (hpublic : ¬ Text.Blank s.publicEndpoint)
      (hdiffer : s.secureEndpoint ≠ s.publicEndpoint) (h : s.highWaterMark = 0) :
      FirstViolated s .zeroHighWaterMark

variable {s : Settings} {error : ConfigError}

/-- **The condition that is named is the first one violated.** -/
theorem violation?_eq_some_iff : s.violation? = some error ↔ s.FirstViolated error := by
  rw [violation?]
  constructor
  · intro h
    split at h
    · next hsecure =>
      obtain rfl := Option.some.inj h
      exact .emptySecure (Text.isBlank_iff.1 hsecure)
    · next hsecure =>
      have hsecure' := mt Text.isBlank_iff.2 hsecure
      split at h
      · next hpublic =>
        obtain rfl := Option.some.inj h
        exact .emptyPublic hsecure' (Text.isBlank_iff.1 hpublic)
      · next hpublic =>
        have hpublic' := mt Text.isBlank_iff.2 hpublic
        split at h
        · next hshared =>
          obtain rfl := Option.some.inj h
          exact .shared hsecure' hpublic' hshared
        · next hdiffer =>
          split at h
          · next hzero =>
            obtain rfl := Option.some.inj h
            exact .zeroMark hsecure' hpublic' hdiffer hzero
          · cases h
  · rintro (hsecure | ⟨hsecure, hpublic⟩ | ⟨hsecure, hpublic, hshared⟩ |
      ⟨hsecure, hpublic, hdiffer, hzero⟩)
    · rw [if_pos (Text.isBlank_iff.2 hsecure)]
    · rw [if_neg (mt Text.isBlank_iff.1 hsecure), if_pos (Text.isBlank_iff.2 hpublic)]
    · rw [if_neg (mt Text.isBlank_iff.1 hsecure), if_neg (mt Text.isBlank_iff.1 hpublic),
        if_pos hshared]
    · rw [if_neg (mt Text.isBlank_iff.1 hsecure), if_neg (mt Text.isBlank_iff.1 hpublic),
        if_neg hdiffer, if_pos hzero]

/-- Settings are valid if neither address is blank, the two differ, and the mark is not zero. -/
theorem violation?_eq_none_iff_blank : s.violation? = none ↔
    ¬ Text.Blank s.secureEndpoint ∧ ¬ Text.Blank s.publicEndpoint ∧
      s.secureEndpoint ≠ s.publicEndpoint ∧ s.highWaterMark ≠ 0 := by
  rw [violation?_eq_none_iff, ← Bool.not_eq_true, ← Bool.not_eq_true, Text.isBlank_iff,
    Text.isBlank_iff]

/-- **An environment configures what its variables say, and nothing else.** The mark is the number
that its variable is a numeral of, if that fits a machine word, and a thousand otherwise; what is
switched on is what its variable switches on; an endpoint is the text of its variable as it is, even
if blank or empty, and the default only where there is no text. Of the conditions on the result the
first one violated is named, if any is. -/
theorem environment_configures_exactly (e : Environment) :
    let s := Settings.ofEnvironment e
    (∀ n, s.highWaterMark.toNat = n ↔ e.Writes "QC_QUERY_HIGH_WATER_MARK" n ∨
      n = 1000 ∧ ∀ m, ¬ e.Writes "QC_QUERY_HIGH_WATER_MARK" m) ∧
    (s.verbose = true ↔ e.SwitchesOn "QC_QUERY_VERBOSE") ∧
    (s.redactRoutes = true ↔ e.SwitchesOn "QC_QUERY_REDACT_ROUTES") ∧
    (∀ t, s.secureEndpoint = t ↔ e.Holds "QC_QUERY_SECURE_ENDPOINT" t ∨
      t = "inproc://secure_query_workers" ∧ ∀ u, ¬ e.Holds "QC_QUERY_SECURE_ENDPOINT" u) ∧
    (∀ t, s.publicEndpoint = t ↔ e.Holds "QC_QUERY_PUBLIC_ENDPOINT" t ∨
      t = "inproc://public_query_workers" ∧ ∀ u, ¬ e.Holds "QC_QUERY_PUBLIC_ENDPOINT" u) ∧
    (s.violation? = none ↔
      ¬ Text.Blank s.secureEndpoint ∧ ¬ Text.Blank s.publicEndpoint ∧
        s.secureEndpoint ≠ s.publicEndpoint ∧ s.highWaterMark ≠ 0) ∧
    ∀ error, s.violation? = some error ↔ s.FirstViolated error :=
  ⟨fun _ ↦ Environment.mark?_getD_eq_iff, Environment.flag_iff, Environment.flag_iff,
    fun _ ↦ Environment.text?_getD_eq_iff, fun _ ↦ Environment.text?_getD_eq_iff,
    violation?_eq_none_iff_blank, fun _ ↦ violation?_eq_some_iff⟩

end Settings

end QueryDispatch
