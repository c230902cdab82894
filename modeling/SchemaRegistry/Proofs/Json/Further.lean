import SchemaRegistry.Proofs.Json.Scalar
/-!
# Numerals in front of something else

A numeral bears no mark of its end: it is read until an octet comes that cannot stand in it. So what
is read of the octets of a numeral alone is also read of them in front of what may follow a value,
and then all of that is left (`further_readNumeral`). This is said of every reader that numerals go
through, one after the other, and needs nothing about the value that is read.
-/

set_option autoImplicit false

namespace SchemaRegistry.Json

/-- Whether what is read of some octets is also read with others behind them, which are then left.
-/
def Further (rest : Octets) (short long : Outcome Number) : Prop :=
  ∀ n left, short = .ok (n, left) → long = .ok (n, left ++ rest)

theorem further_error {rest : Octets} {stop : Stop} {long : Outcome Number} :
    Further rest (.error stop) long :=
  fun _ _ h => nomatch h

theorem further_ok {rest left : Octets} {n : Number} :
    Further rest (.ok (n, left)) (.ok (n, left ++ rest)) := by
  intro m more h
  obtain ⟨rfl, rfl⟩ := Prod.mk.inj (Except.ok.inj h)
  rfl

/-- The parts are known, and what is left is not looked at. -/
theorem further_doubleOfParts {rest : Octets} (negative : Bool) (significand : Nat) (exponent : Int)
    (bs : Octets) : Further rest (doubleOfParts negative significand exponent bs)
      (doubleOfParts negative significand exponent (bs ++ rest)) := by
  unfold doubleOfParts
  cases Decimal.ofParts? negative significand exponent with
  | none => exact further_error
  | some x => exact further_ok

/-- An exponent without a sign is read as with a plus. -/
theorem readExponent_plus {b : UInt8} (plus : b ≠ 0x2b) (minus : b ≠ 0x2d) (negative : Bool)
    (significand : Nat) (start : Int) (bs : Octets) :
    readExponent negative significand start (b :: bs) =
      readExponent negative significand start (0x2b :: b :: bs) := by
  simp [readExponent, plus, minus]

/-- What may follow a value is no letter, so no exponent begins behind a numeral. -/
theorem readDoubleEnd_cons {b : UInt8} (letter : b ≠ 0x65) (capital : b ≠ 0x45) (negative : Bool)
    (significand : Nat) (exponent : Int) (bs : Octets) :
    readDoubleEnd negative significand exponent (b :: bs) =
      doubleOfParts negative significand exponent (b :: bs) := by
  unfold readDoubleEnd
  split <;> simp_all

theorem further_wholeNumber {rest : Octets} (negative : Bool) (significand : Nat) (bs : Octets) :
    Further rest (wholeNumber negative significand bs)
      (wholeNumber negative significand (bs ++ rest)) := by
  unfold wholeNumber
  split
  · exact further_ok
  · split
    · exact further_ok
    · exact further_doubleOfParts _ _ _ _

/-! ## Digits -/

section

variable {rest : Octets} (ends : Ends rest)

include ends

/-- Nothing that may follow a value is a digit. This is all that the numerals need of what follows
them. -/
theorem digit?_of_ends {b : UInt8} {more : Octets} (h : rest = b :: more) : digit? b = none := by
  have stops := startsWithDigit_of_ends ends
  rw [h, startsWithDigit, Option.isSome_eq_false_iff, Option.isNone_iff_eq_none] at stops
  exact stops

/-- What follows begins with no digit, so it makes no difference where there are no octets left. -/
theorem startsWithDigit_append (bs : Octets) :
    startsWithDigit (bs ++ rest) = startsWithDigit bs := by
  cases bs with
  | nil => exact startsWithDigit_of_ends ends
  | cons b bs => rfl

/-- The digits end where they ended before, be it at an octet or at the end. -/
theorem takeDigits_append_ends (significand count : Nat) (bs : Octets) :
    takeDigits significand count (bs ++ rest) =
      let (taken, places, left) := takeDigits significand count bs
      (taken, places, left ++ rest) := by
  induction bs generalizing significand count with
  | nil =>
    rcases rest with _ | ⟨b, more⟩
    · rfl
    · simp only [List.nil_append, takeDigits, digit?_of_ends ends rfl]
  | cons b bs ih =>
    rw [List.cons_append, takeDigits, takeDigits]
    cases digit? b with
    | none => rfl
    | some d =>
      simp only
      split
      · rfl
      · exact ih _ _

theorem passDigits_append_ends (count : Nat) (bs : Octets) :
    passDigits count (bs ++ rest) =
      let (places, left) := passDigits count bs
      (places, left ++ rest) := by
  induction bs generalizing count with
  | nil =>
    rcases rest with _ | ⟨b, more⟩
    · rfl
    · simp [passDigits, digit?_of_ends ends rfl]
  | cons b bs ih =>
    rw [List.cons_append, passDigits, passDigits]
    split
    · exact ih _
    · rfl

/-! ## Doubles -/

/-- The exponent is complete at the same digit, with or without octets behind it. -/
theorem further_readExponentDigits (negative : Bool) (significand : Nat) (start : Int)
    (raises : Bool) (exponent : Nat) (bs : Octets) :
    Further rest (readExponentDigits negative significand start raises exponent bs)
      (readExponentDigits negative significand start raises exponent (bs ++ rest)) := by
  induction bs generalizing exponent with
  | nil =>
    rcases rest with _ | ⟨b, more⟩
    · exact further_doubleOfParts _ _ _ _
    · simp only [List.nil_append, readExponentDigits, digit?_of_ends ends rfl]
      exact further_doubleOfParts _ _ _ _
  | cons b bs ih =>
    rw [List.cons_append, readExponentDigits, readExponentDigits]
    cases digit? b with
    | none => exact further_doubleOfParts _ _ _ _
    | some d =>
      simp only
      split
      · split
        · exact further_error
        · rw [passDigits_append_ends ends]
          exact further_ok
      · exact ih _

/-- An exponent at its first digit. -/
theorem further_exponentAt (negative : Bool) (significand : Nat) (start : Int) (raises : Bool)
    (bs : Octets) : Further rest
      (match bs with
        | [] => stopBehind .endInValue []
        | b :: more =>
          match digit? b with
          | none => stopBehind .invalidNumber more
          | some d => readExponentDigits negative significand start raises d more)
      (match bs ++ rest with
        | [] => stopBehind .endInValue []
        | b :: more =>
          match digit? b with
          | none => stopBehind .invalidNumber more
          | some d => readExponentDigits negative significand start raises d more) := by
  cases bs with
  | nil => exact further_error
  | cons b bs =>
    simp only [List.cons_append]
    cases digit? b with
    | none => exact further_error
    | some d => exact further_readExponentDigits ends _ _ _ _ _ _

/-- Without a digit the exponent is an error, in both cases. With one the digits are read on as
before. -/
theorem further_readExponent (negative : Bool) (significand : Nat) (start : Int) (bs : Octets) :
    Further rest (readExponent negative significand start bs)
      (readExponent negative significand start (bs ++ rest)) := by
  cases bs with
  | nil => exact further_error
  | cons b bs =>
    rw [List.cons_append]
    by_cases plus : b = 0x2b
    · subst plus
      exact further_exponentAt ends _ _ _ true bs
    · by_cases minus : b = 0x2d
      · subst minus
        exact further_exponentAt ends _ _ _ false bs
      · rw [readExponent_plus plus minus, readExponent_plus plus minus]
        exact further_exponentAt ends _ _ _ true (b :: bs)

/-- Where the short numeral was at its end the long one meets an octet that begins no exponent. -/
theorem further_readDoubleEnd (negative : Bool) (significand : Nat) (exponent : Int)
    (bs : Octets) : Further rest (readDoubleEnd negative significand exponent bs)
      (readDoubleEnd negative significand exponent (bs ++ rest)) := by
  cases bs with
  | nil =>
    have plain : readDoubleEnd negative significand exponent rest =
        doubleOfParts negative significand exponent rest := by
      rcases rest with _ | ⟨b, more⟩
      · rfl
      · rcases ends_cons.mp ends with rfl | rfl | rfl <;> rfl
    rw [List.nil_append, plain]
    exact further_doubleOfParts _ _ _ _
  | cons b bs =>
    rw [List.cons_append]
    by_cases letter : b = 0x65
    · subst letter
      exact further_readExponent ends _ _ _ bs
    · by_cases capital : b = 0x45
      · subst capital
        exact further_readExponent ends _ _ _ bs
      · rw [readDoubleEnd_cons letter capital, readDoubleEnd_cons letter capital]
        exact further_doubleOfParts _ _ _ (b :: bs)

/-- A fraction needs a digit of its own, and that stands within the numeral. -/
theorem further_readFraction (negative : Bool) (significand : Nat) (exponent : Int)
    (bs : Octets) : Further rest (readFraction negative significand exponent bs)
      (readFraction negative significand exponent (bs ++ rest)) := by
  unfold readFraction
  rw [takeDigits_append_ends ends]
  simp only [startsWithDigit_append ends, passDigits_append_ends ends]
  split
  · exact further_readDoubleEnd ends _ _ _ _
  · split
    · exact further_error
    · exact further_readDoubleEnd ends _ _ _ _

/-! ## Numerals -/

/-- What may stand behind the whole part of a numeral: a fraction, an exponent, or something else.
-/
theorem further_afterWhole {reader : Octets → Outcome Number} {negative : Bool}
    {significand dropped : Nat} {plain : Octets → Outcome Number}
    (point : ∀ bs, reader (0x2e :: bs) = readFraction negative significand dropped bs)
    (letter : ∀ bs, reader (0x65 :: bs) = readExponent negative significand dropped bs)
    (capital : ∀ bs, reader (0x45 :: bs) = readExponent negative significand dropped bs)
    (other : ∀ bs, (∀ b ∈ bs.head?, b ≠ 0x2e ∧ b ≠ 0x65 ∧ b ≠ 0x45) → reader bs = plain bs)
    (further : ∀ bs, Further rest (plain bs) (plain (bs ++ rest))) (bs : Octets) :
    Further rest (reader bs) (reader (bs ++ rest)) := by
  cases bs with
  | nil =>
    rw [other [] (by simp), List.nil_append, other rest]
    · exact further []
    · intro b hb
      rcases ends b hb with rfl | rfl | rfl <;> decide
  | cons b bs =>
    rw [List.cons_append]
    by_cases first : b = 0x2e
    · subst first
      rw [point, point]
      exact further_readFraction ends _ _ _ bs
    · by_cases second : b = 0x65
      · subst second
        rw [letter, letter]
        exact further_readExponent ends _ _ _ bs
      · by_cases third : b = 0x45
        · subst third
          rw [capital, capital]
          exact further_readExponent ends _ _ _ bs
        · rw [other _ (by simp [first, second, third]), other _ (by simp [first, second, third])]
          exact further (b :: bs)

/-- Whether a point or an exponent follows is seen within the numeral or not at all. -/
theorem further_readAfterWhole (negative : Bool) (significand : Nat) (bs : Octets) :
    Further rest (readAfterWhole negative significand bs)
      (readAfterWhole negative significand (bs ++ rest)) := by
  refine further_afterWhole ends (fun _ => rfl) (fun _ => rfl) (fun _ => rfl) ?_
    (further_wholeNumber negative significand) bs
  intro bs plain
  unfold readAfterWhole
  split <;> simp_all

/-- The same for a whole part that was too long, where only the digits that count are kept. -/
theorem further_readAfterLongWhole (negative : Bool) (significand dropped : Nat) (bs : Octets) :
    Further rest (readAfterLongWhole negative significand dropped bs)
      (readAfterLongWhole negative significand dropped (bs ++ rest)) := by
  refine further_afterWhole ends (fun _ => rfl) (fun _ => rfl) (fun _ => rfl) ?_
    (further_doubleOfParts negative significand dropped) bs
  intro bs plain
  unfold readAfterLongWhole
  split <;> simp_all

/-- A zero in front may not be followed by a digit, and what follows the numeral is none. -/
theorem further_readUnsigned (negative : Bool) (bs : Octets) :
    Further rest (readUnsigned negative bs) (readUnsigned negative (bs ++ rest)) := by
  cases bs with
  | nil => exact further_error
  | cons b bs =>
    rw [List.cons_append, readUnsigned.eq_def, readUnsigned.eq_def]
    simp only [startsWithDigit_append ends, takeDigits_append_ends ends,
      passDigits_append_ends ends]
    split
    · exact further_error
    · split
      · exact further_error
      · exact further_readAfterWhole ends _ _ _
    · split
      · exact further_readAfterLongWhole ends _ _ _ _
      · exact further_readAfterWhole ends _ _ _

/-- A numeral is read as it is alone in front of what may follow a value. -/
theorem further_readNumeral (bs : Octets) :
    Further rest (readNumeral bs) (readNumeral (bs ++ rest)) := by
  cases bs with
  | nil => exact further_error
  | cons b bs =>
    rw [List.cons_append]
    by_cases minus : b = 0x2d
    · subst minus
      exact further_readUnsigned ends true bs
    · have unsigned : ∀ more, readNumeral (b :: more) = readUnsigned false (b :: more) := by
        intro more
        unfold readNumeral
        split <;> simp_all
      rw [unsigned, unsigned]
      exact further_readUnsigned ends false (b :: bs)

end

end SchemaRegistry.Json
