import JoinEngine.Json.Reader
import JoinEngine.Json.Writer

/-!
Strings and integers in JSON text. A string is read back from between its quotes whatever
characters it has, as each of them is read back from its escaped form. An integer is read back
from its digits if it fits a 64-bit word, and if the text behind it does not go on with what
could belong to a numeral.
-/

namespace JoinEngine.Json

def consRead (c : Char) (read : Option (List Char) × List Char) :
    Option (List Char) × List Char :=
  (read.1.map (c :: ·), read.2)

theorem readChars_plain {c : Char} (hquote : c ≠ '"') (hescape : c ≠ '\\') (hcontrol : 32 ≤ c.toNat)
    (rest : List Char) : readChars (c :: rest) = (readChars rest).map (consRead c) := by
  rw [readChars.eq_def]
  simp only [if_neg hquote, if_neg hescape, if_neg (Nat.not_lt.mpr hcontrol)]
  cases readChars rest <;> rfl

theorem readChars_letter {e c : Char} (hletter : e ≠ 'u') (h : unescape? e = some c)
    (rest : List Char) : readChars ('\\' :: e :: rest) = (readChars rest).map (consRead c) := by
  rw [readChars.eq_def]
  simp only [if_neg hletter, h, Char.reduceEq, if_false, if_true]
  cases readChars rest <;> rfl

theorem readChars_unit {a b c d : Char} {n : Nat} (h : unit? a b c d = some n) (hlow : n < 32)
    (rest : List Char) :
    readChars ('\\' :: 'u' :: a :: b :: c :: d :: rest) =
      (readChars rest).map (consRead (Char.ofNat n)) := by
  have hhigh : isHighSurrogate n = false := by
    simp only [isHighSurrogate, Bool.and_eq_false_iff, decide_eq_false_iff_not]
    omega
  have hpaired : isLowSurrogate n = false := by
    simp only [isLowSurrogate, Bool.and_eq_false_iff, decide_eq_false_iff_not]
    omega
  rw [readChars.eq_def]
  simp only [h, hhigh, hpaired, Char.reduceEq, Option.bind_eq_bind, Option.bind_some,
    Bool.false_eq_true, if_false, if_true]
  cases readChars rest <;> rfl

/-- The four hexadecimal digits of a control character are read as its number. -/
theorem unit?_hexDigits {n : Nat} (h : n < 32) :
    ∃ a b c d, Text.hexDigits 4 n = [a, b, c, d] ∧ unit? a b c d = some n := by
  have hall : ∀ n < 32,
      unit? ((Text.hexDigits 4 n).getD 0 ' ') ((Text.hexDigits 4 n).getD 1 ' ')
        ((Text.hexDigits 4 n).getD 2 ' ') ((Text.hexDigits 4 n).getD 3 ' ') = some n := by decide
  exact ⟨_, _, _, _, rfl, hall n h⟩

theorem readChars_escapeChar (c : Char) (rest : List Char) :
    readChars (escapeChar c ++ rest) = (readChars rest).map (consRead c) := by
  have hnumber {n : Nat} (h : c.toNat = n) : Char.ofNat n = c := h ▸ Char.ofNat_toNat c
  unfold escapeChar
  repeat' split
  -- what is escaped by a letter of its own
  any_goals
    subst c
    exact readChars_letter (by decide) rfl rest
  next hc => exact hnumber hc ▸ readChars_letter (by decide) rfl rest
  next hc => exact hnumber hc ▸ readChars_letter (by decide) rfl rest
  next hcontrol =>
    obtain ⟨a, b, c', d, hdigits, hunit⟩ := unit?_hexDigits hcontrol
    rw [hdigits, List.append_assoc]
    exact (readChars_unit hunit hcontrol rest).trans (by rw [Char.ofNat_toNat])
  next hquote hescape _ _ _ _ _ hcontrol =>
    exact readChars_plain hquote hescape (Nat.not_lt.mp hcontrol) rest

/-- A string is read back up to its closing quote. -/
theorem readChars_string (chars rest : List Char) :
    readChars (chars.flatMap escapeChar ++ '"' :: rest) = some (some chars, rest) := by
  induction chars with
  | nil =>
      rw [readChars.eq_def]
      rfl
  | cons c chars ih =>
      rw [List.flatMap_cons, List.append_assoc, readChars_escapeChar, ih]
      rfl

/-- The text is at its end, or goes on with a blank or with what stands behind an item. -/
def Ended (rest : List Char) : Prop :=
  ∀ c ∈ rest.head?, isBlank c = true ∨ c = ',' ∨ c = ']' ∨ c = '\x7d'

/-- What stands there does not belong to a numeral. -/
theorem Ended.head {c : Char} {rest : List Char} (h : Ended (c :: rest)) :
    c.isDigit = false ∧ c ≠ '.' ∧ c ≠ 'e' ∧ c ≠ 'E' := by
  have hc : c ∈ [' ', '\n', '\t', '\r', ',', ']', '\x7d'] := by
    simpa [isBlank, or_assoc] using h c rfl
  have hall : [' ', '\n', '\t', '\r', ',', ']', '\x7d'].all (fun c =>
      decide (c.isDigit = false ∧ c ≠ '.' ∧ c ≠ 'e' ∧ c ≠ 'E')) = true := by decide
  exact of_decide_eq_true (List.all_eq_true.mp hall c hc)

def digitsOf (n : Nat) : List Nat := (Nat.toDigits 10 n).map fun c => c.toNat - 48

theorem ofDigits_digitsOf (n : Nat) : ofDigits (digitsOf n) = n := by
  have hfold : ofDigits (digitsOf n) = Nat.ofDigitChars 10 (Nat.toDigits 10 n) 0 := by
    unfold ofDigits digitsOf
    rw [List.foldl_map, Nat.ofDigitChars_eq_foldl]
    simp only [Nat.mul_comm 10]
    rfl
  rw [hfold, Nat.ofDigitChars_ten_toDigits]

/-- Only zero starts with the digit zero. -/
theorem exists_digitsOf {n : Nat} (h : 0 < n) : ∃ d rest, digitsOf n = (d + 1) :: rest := by
  have hdigit : ∀ n < 10, 0 < n → digitsOf n = [n - 1 + 1] := by decide
  induction n using Nat.strongRecOn with
  | ind n ih =>
      by_cases hsmall : n < 10
      · exact ⟨n - 1, [], hdigit n hsmall h⟩
      · obtain ⟨d, rest, hhigh⟩ := ih (n / 10) (by omega) (by omega)
        refine ⟨d, rest ++ [(n % 10).digitChar.toNat - 48], ?_⟩
        unfold digitsOf at hhigh ⊢
        rw [Nat.toDigits_of_base_le (by decide) (by omega), List.map_append, hhigh]
        rfl

/-- The digits of a number are read up to where they end. -/
theorem spanDigits_toDigits (n : Nat) {rest : List Char} (hrest : Ended rest) :
    spanDigits (Nat.toDigits 10 n ++ rest) = (digitsOf n, rest) := by
  have hdigit : ∀ c ∈ Nat.toDigits 10 n, c.isDigit = true := fun c member =>
    Nat.isDigit_of_mem_toDigits (by decide) (by decide) member
  have hstop : rest.takeWhile Char.isDigit = [] ∧ rest.dropWhile Char.isDigit = rest := by
    cases rest with
    | nil => exact ⟨rfl, rfl⟩
    | cons c tail => simp [hrest.head.1]
  unfold spanDigits
  rw [List.takeWhile_append_of_pos hdigit, List.dropWhile_append_of_pos hdigit, hstop.1, hstop.2,
    List.append_nil]
  rfl

theorem readFraction_ended {rest : List Char} (hrest : Ended rest) :
    readFraction rest = some (none, rest) := by
  unfold readFraction
  split
  next => exact absurd rfl hrest.head.2.1
  next => rfl

theorem readExponent_ended {rest : List Char} (hrest : Ended rest) :
    readExponent rest = some (none, rest) := by
  unfold readExponent
  split
  next => rfl
  next c tail =>
    obtain ⟨-, -, hlower, hupper⟩ := hrest.head
    rw [if_neg (by simp [hlower, hupper])]

/-- The digits of a number, behind a minus or not, are a numeral. -/
theorem readNumeral_toDigits (negative : Bool) (n : Nat) {rest : List Char} (hrest : Ended rest) :
    readNumeral ((if negative then ['-'] else []) ++ (Nat.toDigits 10 n ++ rest)) =
      some (⟨negative, digitsOf n, none, none⟩, rest) := by
  have hunsigned : ∀ tail, Nat.toDigits 10 n ++ rest ≠ '-' :: tail := by
    intro tail htail
    cases hdigits : Nat.toDigits 10 n with
    | nil => exact absurd hdigits Nat.toDigits_ne_nil
    | cons c digits =>
        have hdigit : c.isDigit = true :=
          Nat.isDigit_of_mem_toDigits (by decide) (by decide) (hdigits ▸ List.mem_cons_self)
        rw [hdigits] at htail
        obtain rfl := List.head_eq_of_cons_eq htail
        cases hdigit
  have hwhole : digitsOf n = [0] ∨ ∃ d others, digitsOf n = (d + 1) :: others := by
    rcases Nat.eq_zero_or_pos n with rfl | hpos
    · exact Or.inl rfl
    · exact Or.inr (exists_digitsOf hpos)
  have hspan := spanDigits_toDigits n hrest
  have hfraction := readFraction_ended hrest
  have hexponent := readExponent_ended hrest
  cases negative
  · change readNumeral (Nat.toDigits 10 n ++ rest) = _
    rw [readNumeral.eq_2 _ hunsigned, hspan]
    rcases hwhole with hzero | ⟨d, others, hpos⟩
    · simp [hzero, hfraction, hexponent]
    · simp [hpos, hfraction, hexponent]
  · change readNumeral ('-' :: (Nat.toDigits 10 n ++ rest)) = _
    rw [readNumeral.eq_1, hspan]
    rcases hwhole with hzero | ⟨d, others, hpos⟩
    · simp [hzero, hfraction, hexponent]
    · simp [hpos, hfraction, hexponent]

/-- Digits are taken up as long as their number fits a word. -/
theorem takeDigits_of_le {digits : List Nat} {head : Nat}
    (h : digits.foldl (fun n d => n * 10 + d) head ≤ Numeral.maxWord) :
    Numeral.takeDigits head digits = (digits.foldl (fun n d => n * 10 + d) head, 0) := by
  have hgrows (digits : List Nat) (head : Nat) :
      head ≤ digits.foldl (fun n d => n * 10 + d) head := by
    induction digits generalizing head with
    | nil => exact Nat.le_refl head
    | cons d rest ih => exact Nat.le_trans (by omega) (ih (head * 10 + d))
  induction digits generalizing head with
  | nil => rfl
  | cons d rest ih =>
      rw [List.foldl_cons] at h ⊢
      unfold Numeral.takeDigits
      rw [if_pos (Nat.le_trans (hgrows rest _) h)]
      exact ih h

def FitsWord (n : Int) : Prop := Int64.minValue.toInt ≤ n ∧ n ≤ Numeral.maxWord

instance (n : Int) : Decidable (FitsWord n) := inferInstanceAs (Decidable (_ ∧ _))

theorem value_digitsOf {negative : Bool} {m : Nat} (hzero : negative = true → 0 < m)
    (hfits : FitsWord (if negative then -(m : Int) else m)) :
    Numeral.value ⟨negative, digitsOf m, none, none⟩ =
      .number (.int (if negative then -(m : Int) else m)) := by
  have hmin : Int64.minValue.toInt = -(2 ^ 63 : Nat) := by decide
  have hmax : Numeral.maxWord = 2 ^ 64 - 1 := by decide
  obtain ⟨hlow, hhigh⟩ := hfits
  have hdigits : Numeral.takeDigits 0 (digitsOf m) = (m, 0) := by
    have hfold := ofDigits_digitsOf m
    unfold ofDigits at hfold
    rw [takeDigits_of_le, hfold]
    rw [hfold, hmax]
    cases negative <;> simp at hlow hhigh <;> omega
  unfold Numeral.value
  cases negative with
  | false => simp [hdigits]
  | true =>
      have hnegative : 0 < m ∧ Int64.minValue.toInt ≤ -(m : Int) := ⟨hzero rfl, hlow⟩
      simp only [hdigits]
      exact if_pos hnegative

/-- The text of an integer: a minus for a negative one, and the digits of its amount. -/
theorem toList_toString_int (n : Int) :
    (toString n).toList = (if decide (n < 0) then ['-'] else []) ++ Nat.toDigits 10 n.natAbs := by
  cases n with
  | ofNat m =>
      have htext : toString (Int.ofNat m) = Nat.repr m := rfl
      have hsign : ¬ Int.ofNat m < 0 := by simp
      rw [htext, Nat.repr_eq_ofList_toDigits, String.toList_ofList, decide_eq_false hsign]
      rfl
  | negSucc m =>
      have htext : toString (Int.negSucc m) = "-" ++ Nat.repr (m + 1) := rfl
      rw [htext, String.toList_append, Nat.repr_eq_ofList_toDigits, decide_eq_true
        (Int.negSucc_lt_zero m)]
      exact congrArg _ String.toList_ofList

/-- An integer is read back from its text if it fits a word. -/
theorem readNumeral_int {n : Int} (hfits : FitsWord n) {rest : List Char} (hrest : Ended rest) :
    ∃ numeral, readNumeral ((toString n).toList ++ rest) = some (numeral, rest) ∧
      numeral.value = .number (.int n) := by
  have hsigned : n = if decide (n < 0) then -(n.natAbs : Int) else n.natAbs := by
    by_cases hneg : n < 0
    · rw [decide_eq_true hneg, if_pos rfl]
      omega
    · rw [decide_eq_false hneg, if_neg Bool.false_ne_true]
      omega
  refine ⟨⟨decide (n < 0), digitsOf n.natAbs, none, none⟩, ?_, ?_⟩
  · rw [toList_toString_int, List.append_assoc]
    exact readNumeral_toDigits _ _ hrest
  · rw [value_digitsOf, ← hsigned]
    · simp
      omega
    · rw [← hsigned]
      exact hfits

end JoinEngine.Json
