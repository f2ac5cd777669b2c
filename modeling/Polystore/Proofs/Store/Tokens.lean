import Polystore.Store.Read
import Mathlib.Data.Nat.Digits.Defs

/-!
The tokens of a store are offsets, eight bytes each, the highest first. Every eight bytes are a token, and an
offset that eight bytes can count comes back from its token.
-/
namespace Polystore.Store

/-- Where a read starts: at the first row without a token, else at the number that its eight bytes are. -/
inductive StartsAt : Option PagingToken → Nat → Prop where
  | fresh : StartsAt none 0
  | resumed (token : PagingToken) (eight : token.bytes.length = 8) :
      StartsAt (some token) (Nat.ofDigits 256 (token.bytes.reverse.map UInt8.toNat))

private theorem foldl_bytes (bytes : List UInt8) (high : Nat) :
    bytes.foldl (fun offset byte => offset * 256 + byte.toNat) high =
      Nat.ofDigits 256 (bytes.reverse.map UInt8.toNat) + 256 ^ bytes.length * high := by
  induction bytes generalizing high with
  | nil => simp
  | cons byte rest ih =>
    rw [List.foldl_cons, ih, List.reverse_cons, List.map_append, Nat.ofDigits_append]
    simp only [List.length_map, List.length_reverse, List.map_cons, List.map_nil, Nat.ofDigits_singleton,
      List.length_cons, Nat.pow_succ]
    ring

theorem startOf_eq_ok_iff {token : Option PagingToken} {offset : Nat} :
    startOf token = .ok offset ↔ StartsAt token offset := by
  cases token with
  | none =>
    constructor
    · intro start
      cases start
      exact .fresh
    · intro start
      cases start
      rfl
  | some token =>
    simp only [startOf, offsetOf, foldl_bytes, Nat.mul_zero, Nat.add_zero]
    constructor
    · intro start
      split at start
      · rename_i eight
        cases start
        exact .resumed token eight
      · cases start
    · intro start
      cases start with
      | resumed _ eight => simp [eight]

theorem startOf_tokenOf {offset : Nat} (counted : offset ≤ wordMax) :
    startOf (some (tokenOf offset)) = .ok offset := by
  simp only [wordMax, UInt64.size] at counted
  simp only [startOf, offsetOf, tokenOf, List.length_cons, List.length_nil, List.map_cons,
    List.map_nil, List.foldl_cons, List.foldl_nil, Nat.reduceAdd, if_true, UInt8.toNat_ofNat',
    Nat.shiftRight_eq_div_pow]
  congr 1
  omega

end Polystore.Store
