import FirewallProbe.Json.Parser
import FirewallProbe.Proofs.Dict
import FirewallProbe.Proofs.Except

/-!
# The values that are read from a text

The constructors of `Json` admit more than what a text can hold: integers of any size, and objects
with one key twice or with their keys in any order.  `Json.WellFormed` excludes these, and
`Json.parse` returns nothing else.

`Reads P x` says that what `x` reads satisfies `P`.  The parts of the reader are combined by
`Reads.bind`, and the four functions that call each other are treated together, by induction on
their fuel.

## Key results

- `Json.reads_readNumber`: an integer is one of those kept exactly
- `Json.readsWellFormed`: what each of the four functions yields
- `Json.wellFormed_of_parse`: the value of a text is well-formed
- `Json.WellFormed.member?_eq_some_iff`: `member?` finds every member of an object
-/

namespace FirewallProbe.Json

/-- Values whose integers are kept exactly and whose objects have their members by increasing key,
at every depth. -/
inductive WellFormed : Json → Prop
  | null : WellFormed .null
  | bool (b : Bool) : WellFormed (.bool b)
  | int {n : Int} (exact : isExact n = true) : WellFormed (.int n)
  | float (x : Float) : WellFormed (.float x)
  | str (s : String) : WellFormed (.str s)
  | arr {items : List Json} (items_wellFormed : ∀ v ∈ items, WellFormed v) :
    WellFormed (.arr items)
  | obj {members : List (String × Json)} (sorted : members.Pairwise fun a b => a.1 < b.1)
    (values_wellFormed : ∀ m ∈ members, WellFormed m.2) : WellFormed (.obj members)

/-- No key of a well-formed object comes twice. -/
theorem WellFormed.nodup_keys {members : List (String × Json)} (h : WellFormed (.obj members)) :
    (members.map (·.1)).Nodup := by
  cases h with
  | obj sorted _ => exact Dict.nodup_keys ⟨members, sorted⟩

/-- `member?` finds every member of a well-formed object. -/
theorem WellFormed.member?_eq_some_iff {members : List (String × Json)}
    (h : WellFormed (.obj members)) {key : String} {v : Json} :
    (Json.obj members).member? key = some v ↔ (key, v) ∈ members :=
  valueAt?_eq_some_iff (.of_nodup h.nodup_keys)

/-- `object` orders members and keeps one of each key. -/
theorem wellFormed_object {members : List (String × Json)} (h : ∀ m ∈ members, WellFormed m.2) :
    WellFormed (object members) :=
  .obj (Dict.ofList members).sorted fun m hm => h m (Dict.mem_of_mem_entries_ofList hm)

/-! ## Steps of the reader -/

section

variable {α β : Type} {P : α → Prop} {Q : β → Prop}

/-- If `x` succeeds, the value that it read satisfies `P`. -/
def Reads (P : α → Prop) (x : Except Fault (α × List UInt8)) : Prop :=
  ∀ a rest, x = .ok (a, rest) → P a

theorem reads_ok {a : α} (h : P a) (rest : List UInt8) : Reads P (.ok (a, rest)) := by
  rintro _ _ heq
  obtain ⟨rfl, rfl⟩ := Prod.mk.inj (Except.ok.inj heq)
  exact h

theorem reads_error (fault : Fault) : Reads P (.error fault) := nofun

/-- Nothing is asked of what is read. -/
theorem reads_true (x : Except Fault (α × List UInt8)) : Reads (fun _ => True) x :=
  fun _ _ _ => trivial

/-- What is read by `f` after `x` satisfies `Q`, if it does after every value with `P`. -/
theorem Reads.bind {x : Except Fault (α × List UInt8)}
    {f : α × List UInt8 → Except Fault (β × List UInt8)} (hx : Reads P x)
    (hf : ∀ a rest, P a → Reads Q (f (a, rest))) : Reads Q (x >>= f) := by
  intro b rest hread
  obtain ⟨⟨a, rest'⟩, ha, hb⟩ := Except.bind_eq_ok_iff.1 hread
  exact hf a rest' (hx a rest' ha) b rest hb

end

/-! ## Numbers -/

/-- `readDigits` does not carry a significand past `maxSignificand`. -/
theorem readDigits_le {significand : Nat} (h : significand ≤ maxSignificand) (bytes : List UInt8) :
    (readDigits significand bytes).1 ≤ maxSignificand := by
  induction bytes generalizing significand with
  | nil => exact h
  | cons b rest ih =>
    simp only [readDigits]
    split
    next =>
      split
      next => exact h
      next hnext => exact ih (Nat.le_of_not_lt hnext)
    next => exact h

/-- `readScaled` yields a number with a point. -/
theorem reads_readScaled (negative : Bool) (significand : Nat) (power : Int) (rest : List UInt8) :
    Reads WellFormed (readScaled negative significand power rest) := by
  unfold readScaled
  split
  next x _ => exact reads_ok (.float x) rest
  next => exact reads_error _

/-- `readExponent` yields a number with a point. -/
theorem reads_readExponent (negative : Bool) (significand : Nat) (power : Int)
    (bytes : List UInt8) : Reads WellFormed (readExponent negative significand power bytes) := by
  unfold readExponent
  dsimp only
  split
  next => exact reads_error _
  next =>
    split
    next =>
      split
      next => exact reads_readScaled _ _ _ _
      next =>
        -- One case for each way of writing the sign, which decides what too long digits come to.
        split
        all_goals
          split
          next => exact reads_error _
          next => exact reads_ok (.float _) _
    next => exact reads_error _

theorem reads_readOptionalExponent (negative : Bool) (significand : Nat) (power : Int)
    (bytes : List UInt8) :
    Reads WellFormed (readOptionalExponent negative significand power bytes) := by
  unfold readOptionalExponent
  split
  next => exact reads_readExponent _ _ _ _
  next => exact reads_readExponent _ _ _ _
  next => exact reads_readScaled _ _ _ _

/-- `readFraction` yields a number with a point. -/
theorem reads_readFraction (negative : Bool) (significand : Nat) (power : Int)
    (bytes : List UInt8) : Reads WellFormed (readFraction negative significand power bytes) := by
  unfold readFraction
  split
  next => exact reads_error _
  next =>
    split
    next => exact reads_readOptionalExponent _ _ _ _
    next => exact reads_error _

/-- `wholeNumber` keeps an integer exactly, or makes it a number with a point if it has no room. -/
theorem wellFormed_wholeNumber (negative : Bool) {n : Nat} (h : n ≤ maxSignificand) :
    WellFormed (wholeNumber negative n) := by
  unfold wholeNumber
  split
  next =>
    split
    next hexact => exact .int hexact.2
    next => exact .float _
  next => exact .int (by simp [isExact]; unfold maxSignificand at h; omega)

/-- `readAfterWhole` yields an integer only of a significand that is not past `maxSignificand`. -/
theorem reads_readAfterWhole (negative : Bool) {significand : Nat}
    (h : significand ≤ maxSignificand) (dropped : Nat) (bytes : List UInt8) :
    Reads WellFormed (readAfterWhole negative significand dropped bytes) := by
  unfold readAfterWhole
  split
  next => exact reads_readFraction _ _ _ _
  next => exact reads_readExponent _ _ _ _
  next => exact reads_readExponent _ _ _ _
  next =>
    split
    next => exact reads_ok (wellFormed_wholeNumber negative h) _
    next => exact reads_readScaled _ _ _ _

/-- `readNumber` carries no significand past `maxSignificand`, by `readDigits_le`. -/
theorem reads_readNumber (negative : Bool) (bytes : List UInt8) :
    Reads WellFormed (readNumber negative bytes) := by
  unfold readNumber
  split
  next => exact reads_error _
  next =>
    split
    next =>
      split
      next => exact reads_error _
      next => exact reads_readAfterWhole negative (Nat.zero_le _) _ _
    next => exact reads_readAfterWhole negative (Nat.zero_le _) _ _
  next b rest _ =>
    split
    next => exact reads_readAfterWhole negative (readDigits_le (Nat.zero_le _) (b :: rest)) _ _
    next => exact reads_error _

/-! ## Values -/

/-- `readWord` yields the `value` it is given. -/
theorem reads_readWord {value : Json} (h : WellFormed value) (word bytes : List UInt8) :
    Reads WellFormed (readWord value word bytes) := by
  induction word generalizing bytes with
  | nil => exact reads_ok h bytes
  | cons w word ih =>
    cases bytes with
    | nil => exact reads_error _
    | cons b bytes =>
      rw [readWord]
      split
      next => exact ih bytes
      next => exact reads_error _

/-- What the functions that read values, and parts of them, yield with some fuel. -/
structure ReadsWellFormed (fuel : Nat) : Prop where
  value : ∀ depth bytes, Reads WellFormed (readValue fuel depth bytes)
  items : ∀ depth first bytes,
    Reads (fun items => ∀ v ∈ items, WellFormed v) (readItems fuel depth first bytes)
  members : ∀ depth first bytes,
    Reads (fun members => ∀ m ∈ members, WellFormed m.2) (readMembers fuel depth first bytes)
  member : ∀ depth bytes,
    Reads (fun members => ∀ m ∈ members, WellFormed m.2) (readMember fuel depth bytes)

section

variable {fuel : Nat} (h : ReadsWellFormed fuel)

include h

/-- One step of `readValue`: items and members are well-formed with less fuel. -/
theorem reads_readValue_succ (depth : Nat) (bytes : List UInt8) :
    Reads WellFormed (readValue (fuel + 1) depth bytes) := by
  rw [readValue]
  split
  next => exact reads_error _
  next b rest _ =>
    repeat' split
    -- Words, numbers and strings, then lists and objects with and without a level to open.
    · exact reads_readWord .null _ _
    · exact reads_readWord (.bool true) _ _
    · exact reads_readWord (.bool false) _ _
    · exact reads_readNumber true _
    · exact reads_readNumber false _
    · exact (reads_true (readString rest)).bind fun s _ _ => reads_ok (.str s) _
    · exact reads_error _
    · exact (h.items _ true rest).bind fun _ _ hitems => reads_ok (.arr hitems) _
    · exact reads_error _
    · exact (h.members _ true rest).bind fun _ _ hmembers =>
        reads_ok (wellFormed_object hmembers) _
    · exact reads_error _

/-- One step of `readItems`. -/
theorem reads_readItems_succ (depth : Nat) (first : Bool) (bytes : List UInt8) :
    Reads (fun items => ∀ v ∈ items, WellFormed v) (readItems (fuel + 1) depth first bytes) := by
  rw [readItems]
  -- With a first item or behind a comma: a value, and then the items after it.
  repeat' split
  · exact reads_error _
  · exact reads_ok (by simp) _
  · exact (h.value depth _).bind fun _ rest hv =>
      (h.items depth false rest).bind fun _ _ hitems =>
        reads_ok (List.forall_mem_cons.2 ⟨hv, hitems⟩) _
  · exact reads_error _
  · exact reads_error _
  · exact (h.value depth _).bind fun _ rest hv =>
      (h.items depth false rest).bind fun _ _ hitems =>
        reads_ok (List.forall_mem_cons.2 ⟨hv, hitems⟩) _
  · exact reads_error _

/-- One step of `readMembers`. -/
theorem reads_readMembers_succ (depth : Nat) (first : Bool) (bytes : List UInt8) :
    Reads (fun members => ∀ m ∈ members, WellFormed m.2)
      (readMembers (fuel + 1) depth first bytes) := by
  rw [readMembers]
  repeat' split
  · exact reads_error _
  · exact reads_ok (by simp) _
  · exact h.member depth _
  · exact reads_error _
  · exact reads_error _
  · exact h.member depth _
  · exact reads_error _
  · exact reads_error _
  · exact reads_error _

/-- One step of `readMember`. -/
theorem reads_readMember_succ (depth : Nat) (bytes : List UInt8) :
    Reads (fun members => ∀ m ∈ members, WellFormed m.2) (readMember (fuel + 1) depth bytes) := by
  rw [readMember]
  refine (reads_true (readString bytes)).bind fun key rest _ => ?_
  dsimp only
  repeat' split
  · exact reads_error _
  · refine (h.value depth _).bind fun v rest hv =>
      (h.members depth false rest).bind fun members rest hmembers => ?_
    exact reads_ok (by simpa using ⟨hv, fun key v => hmembers (key, v)⟩) rest
  · exact reads_error _

end

/-- Whatever the `fuel` is, values and their parts are read well-formed, by induction on it. -/
theorem readsWellFormed (fuel : Nat) : ReadsWellFormed fuel := by
  induction fuel with
  | zero =>
    refine ⟨fun _ _ => ?_, fun _ _ _ => ?_, fun _ _ _ => ?_, fun _ _ => ?_⟩
    · rw [readValue]
      exact reads_error _
    · rw [readItems]
      exact reads_error _
    · rw [readMembers]
      exact reads_error _
    · rw [readMember]
      exact reads_error _
  | succ fuel ih =>
    exact ⟨reads_readValue_succ ih, reads_readItems_succ ih, reads_readMembers_succ ih,
      reads_readMember_succ ih⟩

/-- `parse` returns well-formed values only. -/
theorem wellFormed_of_parse {text : String} {v : Json} (h : parse text = .ok v) :
    WellFormed v := by
  rw [parse] at h
  split at h
  next => cases h
  next value rest hread =>
    have hvalue := (readsWellFormed _).value _ _ value rest hread
    split at h
    next => exact Except.ok.inj h ▸ hvalue
    next => cases h

end FirewallProbe.Json
