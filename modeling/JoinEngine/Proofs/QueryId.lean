import JoinEngine.QueryId
import Mathlib.Algebra.Group.Nat.Defs

/-!
Query ids as text. Hexadecimal numbers of one width are in the order of their digits, and the byte
of a digit grows with it, so padded numbers sort as text as they do by value. Both halves of an id
have one width, and the dash between them stands in one place; so texts of ids compare half by half,
as the ids do, and tell them apart.
-/

namespace JoinEngine

namespace Text

def bytes (s : String) : List UInt8 := s.toUTF8.data.toList

def compareBytes (s t : String) : Ordering := compare (bytes s) (bytes t)

theorem bytes_append (s t : String) : bytes (s ++ t) = bytes s ++ bytes t := by
  unfold bytes String.toUTF8
  rw [String.toByteArray_append, ByteArray.toList_data_append]

theorem compareBytes_self (s : String) : compareBytes s s = .eq := Std.compare_self

/-- Behind parts of one length, the rests decide only between equal parts. -/
theorem compare_append {α : Type} [Ord α] {front other : List α}
    (h : front.length = other.length) (back rest : List α) :
    compare (front ++ back) (other ++ rest) =
      (compare front other).then (compare back rest) := by
  simp only [List.compare_eq_compareLex]
  induction front generalizing other with
  | nil =>
      obtain rfl := List.length_eq_zero_iff.mp h.symm
      rfl
  | cons first front ih =>
      cases other with
      | nil => cases h
      | cons head other =>
          simp only [List.cons_append, List.compareLex_cons_cons, Ordering.then_assoc]
          rw [ih (Nat.succ.inj h)]

theorem compareBytes_append {front other : String}
    (h : (bytes front).length = (bytes other).length) (back rest : String) :
    compareBytes (front ++ back) (other ++ rest) =
      (compareBytes front other).then (compareBytes back rest) := by
  unfold compareBytes
  rw [bytes_append, bytes_append, compare_append h]

/-- Numbers are compared by what is before their last digits, and then by these. -/
theorem compare_div_then_mod (base n m : Nat) :
    (compare (n / base) (m / base)).then (compare (n % base) (m % base)) = compare n m := by
  rcases Nat.lt_trichotomy (n / base) (m / base) with hless | hsame | hmore
  · rw [Nat.compare_eq_lt.mpr hless, Nat.compare_eq_lt.mpr (Nat.lt_of_div_lt_div hless)]
    rfl
  · have hn : base * (m / base) + n % base = n := hsame ▸ Nat.div_add_mod n base
    have hm : base * (m / base) + m % base = m := Nat.div_add_mod m base
    calc (compare (n / base) (m / base)).then (compare (n % base) (m % base))
        = compare (n % base) (m % base) := by rw [Nat.compare_eq_eq.mpr hsame, Ordering.eq_then]
      _ = compare (base * (m / base) + n % base) (base * (m / base) + m % base) := by
          simp only [Nat.compare_eq_ite_lt, Nat.add_lt_add_iff_left]
      _ = compare n m := by rw [hn, hm]
  · rw [Nat.compare_eq_gt.mpr hmore, Nat.compare_eq_gt.mpr (Nat.lt_of_div_lt_div hmore)]
    rfl

theorem length_hexDigits (width n : Nat) : (hexDigits width n).length = width := by
  induction width generalizing n with
  | zero => rfl
  | succ width ih => rw [hexDigits, List.length_append, ih, List.length_singleton]

theorem hex_succ (width n : Nat) :
    hex (width + 1) n = hex width (n / 16) ++ String.ofList [hexDigit (n % 16)] :=
  String.ofList_append

theorem length_bytes_hexDigit {d : Nat} (hd : d < 16) :
    (bytes (String.ofList [hexDigit d])).length = 1 := by
  have hall : ∀ d < 16, (bytes (String.ofList [hexDigit d])).length = 1 := by decide
  exact hall d hd

theorem compareBytes_hexDigit {d e : Nat} (hd : d < 16) (he : e < 16) :
    compareBytes (String.ofList [hexDigit d]) (String.ofList [hexDigit e]) = compare d e := by
  have hall : ∀ d < 16, ∀ e < 16,
      compareBytes (String.ofList [hexDigit d]) (String.ofList [hexDigit e]) = compare d e := by
    decide
  exact hall d hd e he

theorem length_bytes_hex (width n : Nat) : (bytes (hex width n)).length = width := by
  induction width generalizing n with
  | zero => rfl
  | succ width ih =>
      rw [hex_succ, bytes_append, List.length_append, ih,
        length_bytes_hexDigit (Nat.mod_lt n (by decide))]

/-- Padded to one width, numbers are in the order of their texts. -/
theorem compareBytes_hex {width n m : Nat} (hn : n < 16 ^ width) (hm : m < 16 ^ width) :
    compareBytes (hex width n) (hex width m) = compare n m := by
  induction width generalizing n m with
  | zero =>
      obtain rfl : n = 0 := by omega
      obtain rfl : m = 0 := by omega
      rfl
  | succ width ih =>
      rw [Nat.pow_succ, Nat.mul_comm] at hn hm
      have hbefore := ih (Nat.div_lt_of_lt_mul hn) (Nat.div_lt_of_lt_mul hm)
      have hlast := compareBytes_hexDigit (Nat.mod_lt n (by decide)) (Nat.mod_lt m (by decide))
      have hlengths :
          (bytes (hex width (n / 16))).length = (bytes (hex width (m / 16))).length := by
        rw [length_bytes_hex, length_bytes_hex]
      rw [hex_succ, hex_succ, compareBytes_append hlengths, hbefore, hlast, compare_div_then_mod]

/-- The texts of words, padded to sixteen digits, are in the order of the words. -/
theorem compareBytes_hex_word (x y : UInt64) :
    compareBytes (hex 16 x.toNat) (hex 16 y.toNat) = compare x y := by
  rw [compareBytes_hex x.toNat_lt y.toNat_lt]
  simp only [compare, compareOfLessAndEq, UInt64.lt_iff_toNat_lt, ← UInt64.toNat_inj]

end Text

namespace QueryId

theorem length_display (id : QueryId) : id.display.length = 33 := by
  unfold display Text.hex
  simp only [String.length_append, String.length_ofList, Text.length_hexDigits]
  rfl

theorem compare_eq_eq_iff {a b : QueryId} : a.compare b = .eq ↔ a = b := by
  obtain ⟨member, serial⟩ := a
  obtain ⟨other, number⟩ := b
  unfold compare
  rw [Ordering.then_eq_eq, Std.compare_eq_iff_eq, Std.compare_eq_iff_eq, QueryId.mk.injEq]

/-- The dash stands in one place, so the texts compare half by half. -/
theorem compareBytes_display (a b : QueryId) :
    Text.compareBytes a.display b.display = a.compare b := by
  have hhalves : (Text.bytes (Text.hex 16 a.member.toNat)).length =
      (Text.bytes (Text.hex 16 b.member.toNat)).length := by
    rw [Text.length_bytes_hex, Text.length_bytes_hex]
  have hfronts : (Text.bytes (Text.hex 16 a.member.toNat ++ "-")).length =
      (Text.bytes (Text.hex 16 b.member.toNat ++ "-")).length := by
    rw [Text.bytes_append, Text.bytes_append, List.length_append, List.length_append, hhalves]
  unfold display compare
  rw [Text.compareBytes_append hfronts, Text.compareBytes_append hhalves, Text.compareBytes_self,
    Ordering.then_eq, Text.compareBytes_hex_word, Text.compareBytes_hex_word]

/-- A query id's text identifies it and keeps its place. The text has thirty-three characters; two
ids have the same text only if they are the same; and the texts, compared byte by byte, are in the
order of the ids, by member first and then by serial number. -/
theorem display_identifies_and_orders (a b : QueryId) :
    a.display.length = 33 ∧ (a.display = b.display ↔ a = b) ∧
      Text.compareBytes a.display b.display = a.compare b := by
  refine ⟨a.length_display, ⟨fun hsame => ?_, congrArg display⟩, compareBytes_display a b⟩
  rw [← compare_eq_eq_iff, ← compareBytes_display, hsame]
  exact Text.compareBytes_self _

end QueryId

end JoinEngine
