import Mathlib.Data.List.Basic

/-!
# GilStreaming.Lib.GoStrconv

The decimal conversions of Go's `strconv` for a 64-bit `int`, on lists of characters.

`atoi` returns a value beside its error, as `strconv.Atoi` does: zero for a text that is
not a number, and the nearest `int` for a number that does not fit. Which of the two it
is depends on what comes first, since the loop stops at the first character that is no
digit, or at the first digit with which the number leaves 64 bits.
-/

namespace GilStreaming

/-- The two errors of `strconv`. -/
inductive NumError
  | errSyntax
  | errRange
  deriving DecidableEq, Repr

/-- `math.MaxUint64`. -/
def maxUint64 : Nat := 18446744073709551615

/-- `math.MaxInt64`. -/
def maxInt64 : Int := 9223372036854775807

/-- `math.MinInt64`. -/
def minInt64 : Int := -9223372036854775808

def digitValue (c : Char) : Nat := c.toNat - '0'.toNat

/-- The number that the digits continue `n` to. -/
def decimalValue (n : Nat) (digits : List Char) : Nat :=
  digits.foldl (fun n c => n * 10 + digitValue c) n

/-- The loop of `strconv.ParseUint` in base 10, with `n` read so far. -/
def parseUintLoop (n : Nat) : List Char → Except NumError Nat
  | [] => .ok n
  | c :: rest =>
    if !c.isDigit then .error .errSyntax
    else if n * 10 + digitValue c > maxUint64 then .error .errRange
    else parseUintLoop (n * 10 + digitValue c) rest

/-- `strconv.ParseUint`. -/
def parseUint (s : List Char) : Except NumError Nat :=
  if s = [] then .error .errSyntax else parseUintLoop 0 s

/-- The sign of a text, and the rest of it. -/
def splitSign (s : List Char) : Bool × List Char :=
  match s with
  | '+' :: rest => (false, rest)
  | '-' :: rest => (true, rest)
  | _ => (false, s)

/-- The nearest `int`, with an error if it is another number. -/
def nearestInt (n : Int) : Int × Option NumError :=
  if n < minInt64 then (minInt64, some .errRange)
  else if maxInt64 < n then (maxInt64, some .errRange)
  else (n, none)

/-- `strconv.Atoi`. Its shortcut for short texts returns the same. -/
def atoi (s : List Char) : Int × Option NumError :=
  let (negative, digits) := splitSign s
  match parseUint digits with
  | .error .errSyntax => (0, some .errSyntax)
  | .error .errRange => (if negative then minInt64 else maxInt64, some .errRange)
  | .ok n => nearestInt (if negative then -n else n)

/-- `strconv.Itoa`. -/
def itoa (n : Int) : String := toString n

/-- The text is a decimal integer, maybe with a sign, and `n` is its value. -/
def IsDecimal (s : List Char) (n : Int) : Prop :=
  ∃ sign digits, s = sign ++ digits ∧ digits ≠ [] ∧ (∀ c ∈ digits, c.isDigit = true) ∧
    ((sign = [] ∨ sign = ['+']) ∧ n = decimalValue 0 digits ∨
      sign = ['-'] ∧ n = -decimalValue 0 digits)

theorem splitSign_eq (s : List Char) :
    splitSign s = (false, s) ∨ s = '+' :: (splitSign s).2 ∧ (splitSign s).1 = false ∨
      s = '-' :: (splitSign s).2 ∧ (splitSign s).1 = true := by
  unfold splitSign
  split
  · exact .inr (.inl ⟨rfl, rfl⟩)
  · exact .inr (.inr ⟨rfl, rfl⟩)
  · exact .inl rfl

/-- A text that starts with a digit has no sign. -/
theorem splitSign_digits {digits : List Char}
    (hdigits : ∀ c ∈ digits, c.isDigit = true) : splitSign digits = (false, digits) := by
  rcases splitSign_eq digits with h | ⟨h, -⟩ | ⟨h, -⟩
  · exact h
  · rw [h] at hdigits
    exact absurd (hdigits '+' List.mem_cons_self) (by decide)
  · rw [h] at hdigits
    exact absurd (hdigits '-' List.mem_cons_self) (by decide)

theorem parseUintLoop_ok {digits : List Char} {n m : Nat} (h : parseUintLoop n digits = .ok m) :
    (∀ c ∈ digits, c.isDigit = true) ∧ m = decimalValue n digits := by
  induction digits generalizing n with
  | nil => exact ⟨by simp, (Except.ok.inj h).symm⟩
  | cons c rest ih =>
      rw [parseUintLoop] at h
      split at h
      · exact absurd h (by simp)
      · next hc =>
          split at h
          · exact absurd h (by simp)
          · obtain ⟨hrest, hm⟩ := ih h
            refine ⟨fun d hd => ?_, hm⟩
            rcases List.mem_cons.mp hd with rfl | hd
            · simpa using hc
            · exact hrest d hd

theorem parseUintLoop_errSyntax {digits : List Char} {n : Nat}
    (h : parseUintLoop n digits = .error .errSyntax) : ∃ c ∈ digits, c.isDigit = false := by
  induction digits generalizing n with
  | nil => exact absurd h (by simp [parseUintLoop])
  | cons c rest ih =>
      rw [parseUintLoop] at h
      split at h
      · next hc => exact ⟨c, List.mem_cons_self, by simpa using hc⟩
      · split at h
        · exact absurd h (by simp)
        · obtain ⟨d, hd, hdigit⟩ := ih h
          exact ⟨d, List.mem_cons_of_mem _ hd, hdigit⟩

theorem parseUint_ok {digits : List Char} {n : Nat} (h : parseUint digits = .ok n) :
    digits ≠ [] ∧ (∀ c ∈ digits, c.isDigit = true) ∧ n = decimalValue 0 digits := by
  unfold parseUint at h
  split at h
  · exact absurd h (by simp)
  · next hne => exact ⟨hne, parseUintLoop_ok h⟩

theorem parseUint_errSyntax {digits : List Char} (h : parseUint digits = .error .errSyntax) :
    ¬ (digits ≠ [] ∧ ∀ c ∈ digits, c.isDigit = true) := by
  intro hdigits
  rw [parseUint, if_neg hdigits.1] at h
  obtain ⟨c, hc, hdigit⟩ := parseUintLoop_errSyntax h
  exact absurd (hdigits.2 c hc) (by simp [hdigit])

theorem nearestInt_none {n : Int} (h : (nearestInt n).2 = none) : (nearestInt n).1 = n := by
  unfold nearestInt at h ⊢
  split at h
  · exact absurd h (by simp)
  · next hmin =>
      split at h
      · exact absurd h (by simp)
      · next hmax => rw [if_neg hmin, if_neg hmax]

theorem nearestInt_some {n : Int} {err : NumError} (h : (nearestInt n).2 = some err) :
    err = .errRange ∧ ((nearestInt n).1 = maxInt64 ∨ (nearestInt n).1 = minInt64) := by
  unfold nearestInt at h ⊢
  split at h
  · next hmin => exact ⟨(Option.some.inj h).symm, .inr (by rw [if_pos hmin])⟩
  · next hmin =>
      split at h
      · next hmax => exact ⟨(Option.some.inj h).symm, .inl (by rw [if_neg hmin, if_pos hmax])⟩
      · exact absurd h (by simp)

/-- Without an error, the text is a decimal integer, and its value is returned. -/
theorem atoi_none {s : List Char} (h : (atoi s).2 = none) : IsDecimal s (atoi s).1 := by
  unfold atoi at h ⊢
  dsimp only at h ⊢
  cases hparse : parseUint (splitSign s).2 with
  | error err => cases err <;> exact absurd h (by simp [hparse])
  | ok n =>
      obtain ⟨hne, hdigits, rfl⟩ := parseUint_ok hparse
      simp only [hparse] at h ⊢
      rw [nearestInt_none h]
      rcases splitSign_eq s with hsign | ⟨hs, hsign⟩ | ⟨hs, hsign⟩
      · rw [hsign] at hne hdigits ⊢
        exact ⟨[], s, rfl, hne, hdigits, .inl ⟨.inl rfl, rfl⟩⟩
      · rw [hsign]
        exact ⟨['+'], _, hs, hne, hdigits, .inl ⟨.inr rfl, rfl⟩⟩
      · rw [hsign]
        exact ⟨['-'], _, hs, hne, hdigits, .inr ⟨rfl, rfl⟩⟩

/-- A number that does not fit becomes an end of the range. -/
theorem atoi_errRange {s : List Char} (h : (atoi s).2 = some .errRange) :
    (atoi s).1 = maxInt64 ∨ (atoi s).1 = minInt64 := by
  unfold atoi at h ⊢
  dsimp only at h ⊢
  cases hparse : parseUint (splitSign s).2 with
  | error err =>
      cases err with
      | errSyntax => exact absurd h (by simp [hparse])
      | errRange => cases (splitSign s).1 <;> simp
  | ok n =>
      simp only [hparse] at h
      exact (nearestInt_some h).2

/-- A text that is not a number becomes zero. -/
theorem atoi_errSyntax {s : List Char} (h : (atoi s).2 = some .errSyntax) :
    (atoi s).1 = 0 ∧ ∀ n, ¬ IsDecimal s n := by
  have hparse : parseUint (splitSign s).2 = .error .errSyntax := by
    unfold atoi at h
    dsimp only at h
    split at h
    · next hparse => exact hparse
    · exact absurd h (by simp)
    · exact absurd (nearestInt_some h).1 (by simp)
  refine ⟨by simp only [atoi, hparse], fun n hn => parseUint_errSyntax hparse ?_⟩
  obtain ⟨sign, digits, rfl, hne, hdigits, hvalue⟩ := hn
  rcases hvalue with ⟨rfl | rfl, -⟩ | ⟨rfl, -⟩
  · rw [List.nil_append, splitSign_digits hdigits]
    exact ⟨hne, hdigits⟩
  · exact ⟨hne, hdigits⟩
  · exact ⟨hne, hdigits⟩

/-! ### The number of a text of digits -/

theorem le_decimalValue (n : Nat) (digits : List Char) : n ≤ decimalValue n digits := by
  induction digits generalizing n with
  | nil => exact Nat.le_refl n
  | cons c rest ih =>
      calc n ≤ n * 10 + digitValue c := by omega
        _ ≤ decimalValue (n * 10 + digitValue c) rest := ih _

theorem parseUintLoop_digits {digits : List Char} {n : Nat}
    (hdigits : ∀ c ∈ digits, c.isDigit = true) (hmax : decimalValue n digits ≤ maxUint64) :
    parseUintLoop n digits = .ok (decimalValue n digits) := by
  induction digits generalizing n with
  | nil => rfl
  | cons c rest ih =>
      have hfits : n * 10 + digitValue c ≤ maxUint64 :=
        Nat.le_trans (le_decimalValue _ rest) hmax
      rw [parseUintLoop, if_neg (by simp [hdigits c]), if_neg (by omega)]
      exact ih (fun d hd => hdigits d (List.mem_cons_of_mem _ hd)) hmax

theorem nearestInt_natCast {n : Nat} (h : (n : Int) ≤ maxInt64) :
    nearestInt (n : Int) = ((n : Int), none) := by
  have hmin : ¬ (n : Int) < minInt64 := by unfold minInt64; omega
  rw [nearestInt, if_neg hmin, if_neg (by omega)]

/-- Digits without a sign, or behind a plus sign, are the number that they write. -/
theorem atoi_digits {digits : List Char} (hne : digits ≠ [])
    (hdigits : ∀ c ∈ digits, c.isDigit = true)
    (hmax : (decimalValue 0 digits : Int) ≤ maxInt64) (plus : Bool) :
    atoi (if plus then '+' :: digits else digits) = ((decimalValue 0 digits : Int), none) := by
  have hsign : splitSign (if plus then '+' :: digits else digits) = (false, digits) := by
    cases plus with
    | false => exact splitSign_digits hdigits
    | true => rfl
  have hparse : parseUint digits = .ok (decimalValue 0 digits) := by
    unfold maxInt64 at hmax
    rw [parseUint, if_neg hne, parseUintLoop_digits hdigits (by unfold maxUint64; omega)]
  unfold atoi
  rw [hsign]
  simp only [hparse]
  exact nearestInt_natCast hmax

theorem isDigit_of_mem_itoa {n : Nat} {c : Char} (h : c ∈ (itoa n).toList) :
    c.isDigit = true :=
  Nat.isDigit_of_mem_toDigits (by decide) (by decide)
    ((show (itoa n).toList = Nat.toDigits 10 n from Nat.toList_repr) ▸ h)

theorem itoa_ne_nil (n : Nat) : (itoa n).toList ≠ [] := by
  rw [show (itoa n).toList = Nat.toDigits 10 n from Nat.toList_repr]
  exact Nat.toDigits_ne_nil

theorem decimalValue_itoa (n : Nat) : decimalValue 0 (itoa n).toList = n := by
  have hvalue : ∀ (digits : List Char) (m : Nat),
      decimalValue m digits = Nat.ofDigitChars 10 digits m := by
    intro digits
    induction digits with
    | nil => exact fun m => rfl
    | cons c rest ih =>
        intro m
        rw [Nat.ofDigitChars_cons, ← ih]
        show decimalValue (m * 10 + digitValue c) rest = _
        rw [Nat.mul_comm m 10]
        rfl
  rw [show (itoa n).toList = Nat.toDigits 10 n from Nat.toList_repr, hvalue]
  exact Nat.ofDigitChars_ten_toDigits

end GilStreaming
