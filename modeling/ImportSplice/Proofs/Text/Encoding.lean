import ImportSplice.Text.Utf8

/-!
Every character has one encoding: `scalar?` reads a character from exactly the bytes that
`encode` gives it.
-/

namespace ImportSplice.Utf8

/-- The code points that characters have. -/
def IsScalar (point : Nat) : Prop := point < 0xD800 ∨ 0xDFFF < point ∧ point ≤ 0x10FFFF

theorem ofNat_eq (byte : UInt8) {number : Nat} (same : number = byte.toNat) :
    UInt8.ofNat number = byte := by
  rw [same, UInt8.ofNat_toNat]

theorem eq_encode_of_scalar? {bytes : Bytes} {point : Nat} (decoded : scalar? bytes = some point) :
    IsScalar point ∧ bytes = encode point := by
  match bytes with
  | [] => simp [scalar?] at decoded
  | [a] =>
      simp only [scalar?, Option.ite_none_right_eq_some, Option.some.injEq,
        UInt8.lt_iff_toNat_lt, UInt8.reduceToNat] at decoded
      obtain ⟨small, rfl⟩ := decoded
      rw [encode, if_pos (by omega), UInt8.ofNat_toNat]
      exact ⟨.inl (by omega), rfl⟩
  | [a, b] =>
      simp only [scalar?, isContinuation, Option.ite_none_right_eq_some, Option.some.injEq,
        Bool.and_eq_true, decide_eq_true_eq, UInt8.le_iff_toNat_le, UInt8.reduceToNat] at decoded
      obtain ⟨⟨⟨low, high⟩, second⟩, rfl⟩ := decoded
      rw [encode, if_neg (by omega), if_pos (by omega), ofNat_eq a (by omega),
        ofNat_eq b (by omega)]
      exact ⟨.inl (by omega), rfl⟩
  | [a, b, c] =>
      simp only [scalar?, isContinuation, Option.ite_none_right_eq_some, Option.some.injEq,
        Bool.and_eq_true, decide_eq_true_eq, Bool.not_eq_true', Bool.and_eq_false_iff,
        decide_eq_false_iff_not, UInt8.le_iff_toNat_le, UInt8.reduceToNat] at decoded
      obtain ⟨⟨⟨⟨⟨⟨low, high⟩, second⟩, third⟩, least⟩, proper⟩, rfl⟩ := decoded
      rw [encode, if_neg (by omega), if_neg (by omega), if_pos (by omega),
        ofNat_eq a (by omega), ofNat_eq b (by omega),
        ofNat_eq c (by omega)]
      refine ⟨?_, rfl⟩
      unfold IsScalar
      omega
  | [a, b, c, d] =>
      simp only [scalar?, isContinuation, Option.ite_none_right_eq_some, Option.some.injEq,
        Bool.and_eq_true, decide_eq_true_eq, UInt8.le_iff_toNat_le, UInt8.reduceToNat] at decoded
      obtain ⟨⟨⟨⟨⟨⟨⟨low, high⟩, second⟩, third⟩, fourth⟩, least⟩, most⟩, rfl⟩ := decoded
      rw [encode, if_neg (by omega), if_neg (by omega), if_neg (by omega),
        ofNat_eq a (by omega), ofNat_eq b (by omega),
        ofNat_eq c (by omega), ofNat_eq d (by omega)]
      exact ⟨.inr (by omega), rfl⟩
  | _ :: _ :: _ :: _ :: _ :: _ => simp [scalar?] at decoded

theorem toNat_ofNat_of_lt {number : Nat} (small : number < 256) :
    (UInt8.ofNat number).toNat = number := by
  rw [UInt8.toNat_ofNat', Nat.mod_eq_of_lt small]

theorem scalar?_encode {point : Nat} (scalar : IsScalar point) :
    scalar? (encode point) = some point := by
  unfold IsScalar at scalar
  rw [encode]
  split
  · simp (disch := omega) only [scalar?, UInt8.lt_iff_toNat_lt, UInt8.reduceToNat,
      toNat_ofNat_of_lt]
    rw [if_pos (by omega)]
  · split
    · simp (disch := omega) only [scalar?, isContinuation, UInt8.le_iff_toNat_le,
        UInt8.reduceToNat, toNat_ofNat_of_lt]
      rw [if_pos (by simp; omega)]
      exact congrArg some (by omega)
    · split
      · simp (disch := omega) only [scalar?, isContinuation, UInt8.le_iff_toNat_le,
          UInt8.reduceToNat, toNat_ofNat_of_lt]
        rw [if_pos (by simp; omega)]
        exact congrArg some (by omega)
      · simp (disch := omega) only [scalar?, isContinuation, UInt8.le_iff_toNat_le,
          UInt8.reduceToNat, toNat_ofNat_of_lt]
        rw [if_pos (by simp; omega)]
        exact congrArg some (by omega)

end ImportSplice.Utf8
