import PinnedSessions.Session.Operations

/-! # What extraction keeps

Values are compared by what they stand for (`Value.denote`): integral scalars by their integer,
numbers by their 64-bit word, and all other values as they are. What is not a number is one thing,
whatever its word.

Extraction never changes what a value stands for, and but for 32-bit numbers it accepts every value
that stands for what some host value does (`extraction_exact`). A host value that is injected is
read back, except that a present value which is injected as the guest's null comes back as absent
(`Target.readBack`). -/

namespace PinnedSessions

open Binary (Single Double)

/-! ### What values stand for -/

/-- The word of a 32-bit number, or nothing if it is none. -/
def Binary.Single.word? (x : Single) : Option UInt32 := if x.isNan then none else some x.bits

/-- The word of a 64-bit number, or nothing if it is none. -/
def Binary.Double.word? (x : Double) : Option UInt64 := if x.isNan then none else some x.bits

/-- What a value stands for. -/
inductive Denotation where
  | integer (n : Int)
  /-- A number, by its word in 64 bits. -/
  | number (word : Option UInt64)
  | singles (words : List (Option UInt32))
  | doubles (words : List (Option UInt64))
  | itself (v : Value)

namespace Value

/-- What a value stands for. -/
def denote : Value → Denotation
  | .byte n => .integer n.toInt
  | .short n => .integer n.toInt
  | .int n => .integer n.toInt
  | .long n => .integer n.toInt
  | .float x => .number x.toDouble.word?
  | .double x => .number x.word?
  | .floatArray xs => .singles (xs.map (·.word?))
  | .doubleArray xs => .doubles (xs.map (·.word?))
  | v => .itself v

theorem denote_eq_integer_iff {v : Value} {n : Int} :
    v.denote = .integer n ↔ v.integer? = some n := by
  cases v <;> simp [denote, integer?]

theorem eq_of_denote_itself {v w : Value} (h : v.denote = .itself w) : v = w := by
  cases v <;> simp_all [denote]

end Value

namespace Target

/-! ### Integers and characters -/

/-- An integer of some width is extracted from exactly the integral scalars that stand for it. -/
theorem extractInteger_eq_ok_iff {α : Type} {toInt : α → Int} {ofInt : Int → α} {low high : Int}
    (hbounds : ∀ x, low ≤ toInt x ∧ toInt x ≤ high)
    (hto : ∀ n, low ≤ n → n ≤ high → toInt (ofInt n) = n) (hof : ∀ x, ofInt (toInt x) = x)
    (wanted : Kind) (v : Value) (x : α) :
    extractInteger wanted low high ofInt v = .ok x ↔ v.integer? = some (toInt x) := by
  unfold extractInteger
  cases v.integer? with
  | none => simp
  | some n =>
      constructor
      · intro h
        dsimp only at h
        split at h
        · next hn =>
          cases h
          rw [hto n hn.1 hn.2]
        · cases h
      · intro h
        cases h
        dsimp only
        rw [if_pos (hbounds x), hof x]

theorem extract_int8 (v : Value) (x : Int8) :
    extract .int8 v = .ok x ↔ v.integer? = some x.toInt :=
  extractInteger_eq_ok_iff (fun x => ⟨x.minValue_le_toInt, x.toInt_le⟩)
    (fun n hl hh => Int8.toInt_ofInt_of_le hl (by rw [Int8.toInt_maxValue] at hh; omega))
    Int8.ofInt_toInt _ v x

theorem extract_int16 (v : Value) (x : Int16) :
    extract .int16 v = .ok x ↔ v.integer? = some x.toInt :=
  extractInteger_eq_ok_iff (fun x => ⟨x.minValue_le_toInt, x.toInt_le⟩)
    (fun n hl hh => Int16.toInt_ofInt_of_le hl (by rw [Int16.toInt_maxValue] at hh; omega))
    Int16.ofInt_toInt _ v x

theorem extract_int32 (v : Value) (x : Int32) :
    extract .int32 v = .ok x ↔ v.integer? = some x.toInt :=
  extractInteger_eq_ok_iff (fun x => ⟨x.minValue_le_toInt, x.toInt_le⟩)
    (fun n hl hh => Int32.toInt_ofInt_of_le hl (by rw [Int32.toInt_maxValue] at hh; omega))
    Int32.ofInt_toInt _ v x

theorem extract_int64 (v : Value) (x : Int64) :
    extract .int64 v = .ok x ↔ v.integer? = some x.toInt :=
  extractInteger_eq_ok_iff (fun x => ⟨x.minValue_le_toInt, x.toInt_le⟩)
    (fun n hl hh => Int64.toInt_ofInt_of_le hl (by rw [Int64.toInt_maxValue] at hh; omega))
    Int64.ofInt_toInt _ v x

/-- A character is extracted from exactly the text that it makes up alone. -/
theorem extract_char (v : Value) (c : Char) :
    extract .char v = .ok c ↔ v = .str (String.ofList [c]) := by
  cases v with
  | str s =>
      rw [Value.str.injEq]
      change extractChar (.str s) = .ok c ↔ s = String.ofList [c]
      unfold extractChar
      dsimp only
      constructor
      · intro h
        split at h
        · next d hd =>
          cases h
          rw [← hd, String.ofList_toList]
        · cases h
      · intro h
        rw [h, String.toList_ofList]
  | _ => exact ⟨fun h => (by cases h), fun h => (by cases h)⟩

theorem extract_option {t : Target} {v : Value} (h : v ≠ .none) :
    extract (.option t) v = (t.extract v).map some := by
  cases v with
  | none => exact absurd rfl h
  | _ => rfl

/-! ### What is extracted -/

/-- What is extracted stands for what the value does. -/
theorem denote_of_extract (t : Target) : ∀ (v : Value) (x : t.Carrier), t.extract v = .ok x →
    (t.inject x).denote = v.denote := by
  induction t with
  | value | bool | single | double | string | bools | bytes | int16s | int32s | int64s | singles
  | doubles | object | cls =>
      intro v x h
      cases v <;> cases h <;> rfl
  | int8 => exact fun v x h => (Value.denote_eq_integer_iff.2 ((extract_int8 v x).1 h)).symm
  | int16 => exact fun v x h => (Value.denote_eq_integer_iff.2 ((extract_int16 v x).1 h)).symm
  | int32 => exact fun v x h => (Value.denote_eq_integer_iff.2 ((extract_int32 v x).1 h)).symm
  | int64 => exact fun v x h => (Value.denote_eq_integer_iff.2 ((extract_int64 v x).1 h)).symm
  | char =>
      intro v c h
      rw [(extract_char v c).1 h]
      rfl
  | option t ih =>
      intro v x h
      by_cases hv : v = .none
      · subst hv
        cases h
        rfl
      · rw [extract_option hv] at h
        cases ht : t.extract v with
        | error fault =>
            rw [ht] at h
            cases h
        | ok y =>
            rw [ht] at h
            cases h
            exact ih v y ht

/-- What a target is made of without the options around it. -/
def core : Target → Target
  | .option t => t.core
  | t => t

/-- Every value is accepted that stands for what some host value does, unless 32-bit numbers are
asked for. -/
theorem extract_of_denote (t : Target) (ht : t.core ≠ .single) : ∀ (v : Value) (x : t.Carrier),
    (t.inject x).denote = v.denote → ∃ y, t.extract v = .ok y := by
  induction t with
  | value | bool | double | string | bools | bytes | int16s | int32s | int64s | singles | doubles
  | object | cls =>
      intro v x h
      cases v <;> first | exact ⟨_, rfl⟩ | cases h
  | single => exact absurd rfl ht
  | int8 =>
      exact fun v x h => ⟨x, (extract_int8 v x).2 (Value.denote_eq_integer_iff.1 h.symm)⟩
  | int16 =>
      exact fun v x h => ⟨x, (extract_int16 v x).2 (Value.denote_eq_integer_iff.1 h.symm)⟩
  | int32 =>
      exact fun v x h => ⟨x, (extract_int32 v x).2 (Value.denote_eq_integer_iff.1 h.symm)⟩
  | int64 =>
      exact fun v x h => ⟨x, (extract_int64 v x).2 (Value.denote_eq_integer_iff.1 h.symm)⟩
  | char => exact fun v c h => ⟨c, (extract_char v c).2 (Value.eq_of_denote_itself h.symm)⟩
  | option t ih =>
      intro v x h
      by_cases hv : v = .none
      · exact ⟨none, by rw [hv]; rfl⟩
      · rw [extract_option hv]
        cases x with
        | none => exact absurd (Value.eq_of_denote_itself h.symm) hv
        | some y =>
            obtain ⟨z, hz⟩ := ih ht v y h
            exact ⟨some z, by rw [hz]; rfl⟩

/-! ### What is read back -/

/-- What a host value is read back as: a present value is lost if it is injected as null. -/
def readBack : (t : Target) → t.Carrier → t.Carrier
  | .option t, x => match x with
    | some y => if t.inject y = .none then none else some y
    | none => none
  | _, x => x

theorem readBack_of_inject {t : Target} {x : t.Carrier} (h : t.inject x ≠ .none) :
    t.readBack x = x := by
  cases t with
  | option t =>
      cases x with
      | none => exact absurd rfl h
      | some y => exact if_neg h
  | _ => rfl

theorem extract_inject (t : Target) : ∀ x : t.Carrier, t.extract (t.inject x) =
    .ok (t.readBack x) := by
  induction t with
  | value | bool | single | double | string | bools | bytes | int16s | int32s | int64s | singles
  | doubles | object | cls => exact fun x => rfl
  | int8 => exact fun x => (extract_int8 _ x).2 rfl
  | int16 => exact fun x => (extract_int16 _ x).2 rfl
  | int32 => exact fun x => (extract_int32 _ x).2 rfl
  | int64 => exact fun x => (extract_int64 _ x).2 rfl
  | char => exact fun c => (extract_char _ c).2 rfl
  | option t ih =>
      intro x
      cases x with
      | none => rfl
      | some y =>
          by_cases hy : t.inject y = .none
          · rw [readBack, if_pos hy]
            change extract (.option t) (t.inject y) = _
            rw [hy]
            rfl
          · rw [readBack, if_neg hy]
            change extract (.option t) (t.inject y) = _
            rw [extract_option hy, ih y, readBack_of_inject hy]
            rfl

/-- Only values of an option over an option or over guest values are not read back. -/
theorem readBack_eq {t : Target} (hoption : ∀ t', t ≠ .option (.option t'))
    (hvalue : t ≠ .option .value) (x : t.Carrier) : t.readBack x = x := by
  cases t with
  | option t =>
      cases x with
      | none => rfl
      | some y =>
          refine if_neg ?_
          cases t with
          | option t' => exact absurd rfl (hoption t')
          | value => exact absurd rfl hvalue
          | _ => nofun
  | _ => rfl

end Target

/-- Extraction never changes what a value stands for. What is accepted stands for the same before
and after; what is refused is told as a conversion that the host refused; but for 32-bit numbers,
whatever stands for what some host value does is accepted; and a host value that is injected is read
back, unless it is a present one that is injected as null, which only options over options and over
guest values have. -/
theorem extraction_exact (σ : Type) (t : Target) (v : Value) :
    (∀ x, t.extract v = .ok x → (t.inject x).denote = v.denote) ∧
    (∀ fault, t.extract v = .error fault → ∀ (env : Ambient) (s : Scene σ),
      (Session.ofConversion (t.extract v)).run env s =
        (.error (.noConversion (.host fault)), s)) ∧
    (t.core ≠ .single →
      ((∃ x, t.extract v = .ok x) ↔ ∃ x, (t.inject x).denote = v.denote)) ∧
    (∀ x, t.extract (t.inject x) = .ok (t.readBack x)) ∧
    ((∀ t', t ≠ .option (.option t')) → t ≠ .option .value → ∀ x, t.readBack x = x) := by
  refine ⟨fun x h => t.denote_of_extract v x h, fun fault h env s => ?_, fun ht => ⟨?_, ?_⟩,
    t.extract_inject, fun hoption hvalue x => Target.readBack_eq hoption hvalue x⟩
  · rw [h]
    rfl
  · rintro ⟨x, h⟩
    exact ⟨x, t.denote_of_extract v x h⟩
  · rintro ⟨x, h⟩
    exact t.extract_of_denote ht v x h

/-- A long is narrowed to eight bits if it stands for such an integer, and refused if not. -/
theorem extraction_exact_narrowed :
    Target.int8.core ≠ .single ∧
      Target.int8.extract (.long 5) = .ok 5 ∧
      (Target.int8.inject 5).denote = (Value.long 5).denote ∧
      Target.int8.extract (.long 300) = .error (.outOfRange 300 .byte) ∧
      (Session.ofConversion (Target.int8.extract (.long 300)) : Op Unit Int8).run
          ⟨⟨"1"⟩, .empty⟩ ⟨.fresh {}, { line := ⟨(), []⟩ }⟩ =
        (.error (.noConversion (.host (.outOfRange 300 .byte))),
          ⟨.fresh {}, { line := ⟨(), []⟩ }⟩) ∧
      (¬∃ x, (Target.int8.inject x).denote = (Value.long 300).denote) ∧
      (∀ t', Target.int8 ≠ .option (.option t')) ∧ Target.int8 ≠ .option .value ∧
      Target.int8.readBack 5 = 5 := by
  obtain ⟨hkeeps, -, -, -, hback⟩ := extraction_exact Unit .int8 (.long 5)
  obtain ⟨-, hrefused, haccepts, -⟩ := extraction_exact Unit .int8 (.long 300)
  have hrefuses : Target.int8.extract (.long 300) = .error (.outOfRange 300 .byte) := rfl
  refine ⟨nofun, rfl, hkeeps 5 rfl, hrefuses, hrefused _ hrefuses _ _, fun hx => ?_, nofun, nofun,
    hback nofun nofun 5⟩
  obtain ⟨x, hx⟩ := (haccepts nofun).2 hx
  rw [hrefuses] at hx
  cases hx

end PinnedSessions
