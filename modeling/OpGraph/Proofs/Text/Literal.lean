import Mathlib.Algebra.Group.Nat.Defs
import OpGraph.Proofs.Reading.Token
import OpGraph.Proofs.Text.Trimming
import OpGraph.Text.Integer

/-!
# Integer literals

What integer literals look like and what they say: blanks, a sign, digits of any script with single
underscores between them, blanks. A text is read just when it is a literal, as the integer that it
stands for (`readInteger?_eq_some`), and the decimal text of a number with few enough digits is a
literal for it (`isLiteral_repr`).
-/
namespace OpGraph.Text

/-- What may follow the first digit, with the values of the further digits. -/
inductive IsDigits : List Char → List Nat → Prop
  | nil : IsDigits [] []
  | digit {c : Char} {d : Nat} {cs : List Char} {ds : List Nat} (known : digitValue? c = some d)
      (rest : IsDigits cs ds) : IsDigits (c :: cs) (d :: ds)
  | separated {c : Char} {d : Nat} {cs : List Char} {ds : List Nat}
      (known : digitValue? c = some d) (rest : IsDigits cs ds) :
    IsDigits ('_' :: c :: cs) (d :: ds)

/-- What digits after a number make of it. -/
def decimal (value : Nat) (digits : List Nat) : Nat :=
  digits.foldl (fun value digit => 10 * value + digit) value

theorem decimal_cons (value d : Nat) (ds : List Nat) :
    decimal value (d :: ds) = decimal (value * 10 + d) ds := by
  rw [decimal, List.foldl_cons, Nat.mul_comm 10]
  rfl

/-- Digits that begin with a digit, few enough to be read, and their value. -/
inductive IsNatural : List Char → Nat → Prop
  | digits {c : Char} {d : Nat} {cs : List Char} {ds : List Nat} (known : digitValue? c = some d)
      (rest : IsDigits cs ds) (few : (d :: ds).length ≤ literalDigitLimit) :
    IsNatural (c :: cs) (decimal 0 (d :: ds))

inductive IsSigned : List Char → Int → Prop
  | bare {cs : List Char} {n : Nat} (natural : IsNatural cs n) : IsSigned cs n
  | plus {cs : List Char} {n : Nat} (natural : IsNatural cs n) : IsSigned ('+' :: cs) n
  | minus {cs : List Char} {n : Nat} (natural : IsNatural cs n) : IsSigned ('-' :: cs) (-n)

/-- A literal and the integer that it stands for. -/
inductive IsLiteral (text : String) (n : Int) : Prop
  | padded {before core after : List Char} (left : ∀ c ∈ before, isLiteralBlank c = true)
      (right : ∀ c ∈ after, isLiteralBlank c = true) (signed : IsSigned core n)
      (whole : text.toList = before ++ core ++ after)

/-! ### Digits -/

/-- A digit of any script is neither blank nor one of the other characters of a literal. -/
theorem digit_apart {c : Char} {d : Nat} (known : digitValue? c = some d) :
    isLiteralBlank c = false ∧ c ≠ '_' ∧ c ≠ '+' ∧ c ≠ '-' := by
  have scripts : ∀ first ∈ digitZeros, ∀ k < 10, isLiteralBlank (Char.ofNat (first + k)) = false ∧
      Char.ofNat (first + k) ≠ '_' ∧ Char.ofNat (first + k) ≠ '+' ∧
      Char.ofNat (first + k) ≠ '-' := by
    decide +kernel
  obtain ⟨first, found, -⟩ := Option.map_eq_some_iff.mp known
  have inRange := List.find?_some found
  simp only [Bool.and_eq_true, decide_eq_true_iff] at inRange
  have place := scripts first (List.mem_of_find?_eq_some found) (c.toNat - first) (by omega)
  rwa [Nat.add_sub_cancel' inRange.1, Char.ofNat_toNat] at place

theorem IsDigits.apart {cs : List Char} {ds : List Nat} (digits : IsDigits cs ds) :
    ∀ c ∈ cs, isLiteralBlank c = false := by
  induction digits with
  | nil => exact nofun
  | digit known _ ih => exact List.forall_mem_cons.mpr ⟨(digit_apart known).1, ih⟩
  | separated known _ ih =>
    exact List.forall_mem_cons.mpr ⟨by decide,
      List.forall_mem_cons.mpr ⟨(digit_apart known).1, ih⟩⟩

theorem IsDigits.length_filter {cs : List Char} {ds : List Nat} (digits : IsDigits cs ds) :
    (cs.filter (· != '_')).length = ds.length := by
  induction digits with
  | nil => rfl
  | digit known _ ih => simp [(digit_apart known).2.1, ih]
  | separated known _ ih => simp [(digit_apart known).2.1, ih]

theorem readDigits_eq_some {value n : Nat} {cs : List Char} :
    readDigits value cs = some n ↔
      ∃ ds, IsDigits cs ds ∧ n = decimal value ds := by
  constructor
  · intro read
    -- A separator is only read together with the digit after it.
    fun_induction readDigits value cs with
    | case1 value =>
      cases read
      exact ⟨[], .nil, rfl⟩
    | case2 value c rest ih =>
      obtain ⟨d, known, read⟩ := Option.bind_eq_some_iff.mp read
      obtain ⟨ds, digits, rfl⟩ := ih d read
      exact ⟨d :: ds, .separated known digits, (decimal_cons value d ds).symm⟩
    | case3 value c rest _ ih =>
      obtain ⟨d, known, read⟩ := Option.bind_eq_some_iff.mp read
      obtain ⟨ds, digits, rfl⟩ := ih d read
      exact ⟨d :: ds, .digit known digits, (decimal_cons value d ds).symm⟩
  · rintro ⟨ds, digits, rfl⟩
    induction digits generalizing value with
    | nil => rfl
    | @digit c d cs ds known _ ih =>
      have unseparated : ∀ c' rest, c = '_' → cs = c' :: rest → False :=
        fun _ _ same _ => (digit_apart known).2.1 same
      rw [readDigits.eq_3 _ _ _ unseparated, known, Option.bind_some, ih, decimal_cons]
    | separated known _ ih =>
      rw [readDigits, known, Option.bind_some, ih, decimal_cons]

theorem readNatural_eq_some {cs : List Char} {n : Nat} :
    readNatural cs = some n ↔ IsNatural cs n := by
  cases cs with
  | nil => exact iff_of_false nofun nofun
  | cons c cs =>
    rw [readNatural]
    constructor
    · intro read
      split at read
      · cases read
      next few =>
        obtain ⟨d, known, read⟩ := Option.bind_eq_some_iff.mp read
        obtain ⟨ds, digits, rfl⟩ := readDigits_eq_some.mp read
        have count := (IsDigits.digit known digits).length_filter
        rw [count] at few
        have natural := IsNatural.digits known digits (Nat.not_lt.mp few)
        rwa [decimal_cons, Nat.zero_mul, Nat.zero_add] at natural
    · intro natural
      cases natural with
      | digits known digits few =>
        rw [if_neg, known, Option.bind_some, readDigits_eq_some]
        · exact ⟨_, digits, by rw [decimal_cons, Nat.zero_mul, Nat.zero_add]⟩
        · rw [(IsDigits.digit known digits).length_filter]
          exact Nat.not_lt.mpr few

/-! ### Signs and blanks -/

theorem IsNatural.apart {cs : List Char} {n : Nat} (natural : IsNatural cs n) :
    ∀ c ∈ cs, isLiteralBlank c = false := by
  cases natural with
  | digits known rest _ => exact (IsDigits.digit known rest).apart

theorem IsSigned.apart {cs : List Char} {n : Int} (signed : IsSigned cs n) :
    ∀ c ∈ cs, isLiteralBlank c = false := by
  cases signed with
  | bare natural => exact natural.apart
  | plus natural => exact List.forall_mem_cons.mpr ⟨by decide, natural.apart⟩
  | minus natural => exact List.forall_mem_cons.mpr ⟨by decide, natural.apart⟩

theorem readSigned_eq_some {cs : List Char} {n : Int} :
    readSigned cs = some n ↔ IsSigned cs n := by
  constructor
  · intro read
    unfold readSigned at read
    split at read <;>
      simp only [Option.map_eq_some_iff, Option.bind_eq_bind, Option.bind_eq_some_iff,
        Option.pure_def, Option.some.injEq, readNatural_eq_some] at read <;>
      obtain ⟨-, ⟨n, natural, rfl⟩, rfl⟩ := read
    · exact .minus natural
    · exact .plus natural
    · exact .bare natural
  · intro signed
    cases signed with
    | plus natural => simp [readSigned, readNatural_eq_some.mpr natural]
    | minus natural => simp [readSigned, readNatural_eq_some.mpr natural]
    | bare natural =>
      have read := readNatural_eq_some.mpr natural
      -- The first character is a digit, so it is no sign.
      cases natural with
      | digits known rest few =>
        have apart := digit_apart known
        rw [readSigned, read]
        · rfl
        · exact fun rest same => apart.2.2.2 (List.cons.inj same).1
        · exact fun rest same => apart.2.2.1 (List.cons.inj same).1

theorem readInteger?_eq_some {text : String} {n : Int} :
    readInteger? text = some n ↔ IsLiteral text n := by
  let core := (text.toList.dropWhile isLiteralBlank).rdropWhile isLiteralBlank
  have read_core : readInteger? text = readSigned core := rfl
  rw [read_core, readSigned_eq_some]
  constructor
  · intro signed
    have right : ∀ c ∈ (text.toList.dropWhile isLiteralBlank).rtakeWhile isLiteralBlank,
        isLiteralBlank c = true := fun c among => List.mem_rtakeWhile_imp among
    have left : ∀ c ∈ text.toList.takeWhile isLiteralBlank, isLiteralBlank c = true :=
      fun c among => List.mem_takeWhile_imp among
    refine .padded left right signed ?_
    rw [List.append_assoc, List.rdropWhile_append_rtakeWhile, List.takeWhile_append_dropWhile]
  · rintro ⟨left, right, signed, whole⟩
    -- No character of a signed number is blank, so just the padding is taken away.
    have apart := signed.apart
    have trimmed := dropEnds_padded left right
      (fun c first => apart c (List.mem_of_mem_head? first))
      (fun c last => apart c (List.mem_of_mem_getLast? last))
    rw [← whole] at trimmed
    change IsSigned ((text.toList.dropWhile isLiteralBlank).rdropWhile isLiteralBlank) n
    rwa [trimmed]

/-! ### Decimal texts -/

theorem digitValue?_of_isDigit {c : Char} (digit : c.isDigit = true) :
    digitValue? c = some (c.toNat - '0'.toNat) := by
  have ascii : ∀ k < 10, digitValue? (Char.ofNat ('0'.toNat + k)) = some k := by decide
  simp only [Char.isDigit, Bool.and_eq_true, decide_eq_true_iff] at digit
  have lower : '0'.toNat ≤ c.toNat := digit.1
  have upper : c.toNat ≤ '9'.toNat := digit.2
  have nine : '9'.toNat = '0'.toNat + 9 := rfl
  have place := ascii (c.toNat - '0'.toNat) (by omega)
  rwa [Nat.add_sub_cancel' lower, Char.ofNat_toNat] at place

theorem isBlank_of_isDigit {c : Char} (digit : c.isDigit = true) : isBlank c = false := by
  simp only [Char.isDigit, Bool.and_eq_true, decide_eq_true_iff] at digit
  have lower : 48 ≤ c.toNat := digit.1
  have upper : c.toNat ≤ 57 := digit.2
  simp only [isBlank, isWideBlank, Bool.or_eq_false_iff, Bool.and_eq_false_iff,
    decide_eq_false_iff_not, beq_eq_false_iff_ne]
  omega

theorem isDigits_of_isDigit {cs : List Char} (digits : ∀ c ∈ cs, c.isDigit = true) :
    IsDigits cs (cs.map fun c => c.toNat - '0'.toNat) := by
  induction cs with
  | nil => exact .nil
  | cons c cs ih =>
    obtain ⟨here, there⟩ := List.forall_mem_cons.mp digits
    exact .digit (digitValue?_of_isDigit here) (ih there)

/-- A number is written as a literal that stands for it. -/
theorem isNatural_repr {n : Nat} (few : n < 10 ^ literalDigitLimit) :
    IsNatural (Nat.repr n).toList n := by
  have short : n.repr.length ≤ literalDigitLimit := (Nat.length_repr_le_iff (by decide)).mpr few
  have digits : ∀ c ∈ (Nat.repr n).toList, c.isDigit = true := Reading.toList_repr_digits n
  have value : decimal 0 ((Nat.repr n).toList.map fun c => c.toNat - '0'.toNat) = n := by
    rw [decimal, List.foldl_map, Nat.toList_repr]
    exact Nat.ofDigitChars_ten_toDigits
  rw [← String.length_toList] at short
  cases written : (Nat.repr n).toList with
  | nil => exact absurd (String.toList_eq_nil_iff.mp written) (Reading.repr_ne_empty n)
  | cons c cs =>
    rw [written] at digits value short
    obtain ⟨first, rest⟩ := List.forall_mem_cons.mp digits
    have natural := IsNatural.digits (digitValue?_of_isDigit first) (isDigits_of_isDigit rest)
      (by simpa using short)
    rw [List.map_cons] at value
    rwa [value] at natural

theorem isLiteral_repr {n : Nat} (few : n < 10 ^ literalDigitLimit) :
    IsLiteral (Nat.repr n) n :=
  @IsLiteral.padded _ _ [] _ [] nofun nofun (.bare (isNatural_repr few)) (by simp)

/-! ### Bounds -/

theorem digitValue?_lt {c : Char} {d : Nat} (known : digitValue? c = some d) : d < 10 := by
  obtain ⟨first, found, rfl⟩ := Option.map_eq_some_iff.mp known
  have inRange := List.find?_some found
  simp only [Bool.and_eq_true, decide_eq_true_iff] at inRange
  omega

theorem decimal_cons_lt {d value length : Nat} {ds : List Nat} (small : d < 10)
    (rest : decimal (value * 10 + d) ds < (value * 10 + d + 1) * 10 ^ length) :
    decimal value (d :: ds) < (value + 1) * 10 ^ (length + 1) :=
  calc decimal value (d :: ds) = decimal (value * 10 + d) ds := decimal_cons value d ds
    _ < (value * 10 + d + 1) * 10 ^ length := rest
    _ ≤ (value + 1) * 10 * 10 ^ length := Nat.mul_le_mul_right _ (by omega)
    _ = (value + 1) * 10 ^ (length + 1) := by
      rw [Nat.pow_succ, Nat.mul_assoc, Nat.mul_comm 10]

theorem IsDigits.decimal_lt {cs : List Char} {ds : List Nat} (digits : IsDigits cs ds)
    (value : Nat) : decimal value ds < (value + 1) * 10 ^ ds.length := by
  induction digits generalizing value with
  | nil => simp [decimal]
  | digit known _ ih => exact decimal_cons_lt (digitValue?_lt known) (ih _)
  | separated known _ ih => exact decimal_cons_lt (digitValue?_lt known) (ih _)

/-- A literal stands for an integer of few enough digits. -/
theorem IsLiteral.natAbs_lt {text : String} {n : Int} (literal : IsLiteral text n) :
    n.natAbs < 10 ^ literalDigitLimit := by
  have natural {cs : List Char} {n : Nat} (natural : IsNatural cs n) :
      n < 10 ^ literalDigitLimit := by
    cases natural with
    | digits known rest few =>
      have bound := (IsDigits.digit known rest).decimal_lt 0
      rw [Nat.zero_add, Nat.one_mul] at bound
      exact Nat.lt_of_lt_of_le bound (Nat.pow_le_pow_right (by decide) few)
  obtain ⟨-, -, signed, -⟩ := literal
  cases signed with
  | bare digits => exact natural digits
  | plus digits => exact natural digits
  | minus digits =>
    rw [Int.natAbs_neg]
    exact natural digits

/-- A number of too many digits is written as no literal. -/
theorem not_isLiteral_repr {n : Nat} (many : 10 ^ literalDigitLimit ≤ n) (m : Int) :
    ¬IsLiteral (Nat.repr n) m := by
  rintro @⟨before, core, after, left, right, signed, whole⟩
  have digits : ∀ c ∈ before ++ core ++ after, c.isDigit = true :=
    whole ▸ Reading.toList_repr_digits n
  have apart : ∀ c ∈ before ++ core ++ after, isLiteralBlank c = false ∧ c ≠ '_' ∧ c ≠ '+' ∧
      c ≠ '-' := fun c among => digit_apart (digitValue?_of_isDigit (digits c among))
  -- The text is made of digits alone: it has no padding, no sign and no separators.
  have front : before = [] := List.eq_nil_iff_forall_not_mem.mpr fun c among => by
    simpa [left c among] using apart c (by simp [among])
  have back : after = [] := List.eq_nil_iff_forall_not_mem.mpr fun c among => by
    simpa [right c among] using apart c (by simp [among])
  subst front back
  rw [List.nil_append, List.append_nil] at whole apart
  cases signed with
  | plus natural => exact absurd rfl (apart '+' List.mem_cons_self).2.2.1
  | minus natural => exact absurd rfl (apart '-' List.mem_cons_self).2.2.2
  | bare natural =>
    cases natural with
    | @digits c d cs ds known rest few =>
      have counted := (IsDigits.digit known rest).length_filter
      rw [List.filter_eq_self.mpr fun c among => by simpa using (apart c among).2.1, ← whole,
        String.length_toList] at counted
      have short : (Nat.repr n).length ≤ literalDigitLimit := counted ▸ few
      exact Nat.not_lt.mpr many ((Nat.length_repr_le_iff (by decide)).mp short)

end OpGraph.Text
